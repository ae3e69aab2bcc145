import ProviderGen.Proofs.Recognition.Embedding

/-!
A matcher finds what is recognized. What it keeps for later agrees with what is recognized, except
for rules that grow: for them it keeps what they grow from.
-/

namespace ProviderGen.Source

variable {ρ : Type}

/-- A kept result says what is recognized. -/
def Memo.Agrees (memo : Memo ρ) : Extent → Prop
  | .upTo stop => memo.tree.isSome ∧ memo.stop = stop
  | .refused => memo.tree = none
  | _ => False

/-- The result of matching has a certain extent; its trees and the matcher after it are as asked. -/
def Matched.Has (result : Matched ρ) (trees : List Tree → Prop) (after : Matcher ρ → Prop) :
    Extent → Prop
  | .upTo stop => ∃ found matcher, result = .found found matcher ∧ matcher.position = stop ∧
      trees found ∧ after matcher
  | .refused => ∃ matcher, result = .missed matcher ∧ after matcher
  | .refusedForGood => ∃ matcher, result = .missedForGood matcher ∧ after matcher
  | .wrong => ∃ mistake, result = .wrong mistake

theorem Matched.Has.imp {result : Matched ρ} {trees trees' : List Tree → Prop}
    {after after' : Matcher ρ → Prop} {extent : Extent} (h : result.Has trees after extent)
    (htrees : ∀ found, trees found → trees' found)
    (hafter : ∀ matcher, after matcher → after' matcher) : result.Has trees' after' extent := by
  cases extent with
  | upTo stop =>
      obtain ⟨found, matcher, hfound, hstop, hall, hkept⟩ := h
      exact ⟨found, matcher, hfound, hstop, htrees found hall, hafter matcher hkept⟩
  | refused =>
      obtain ⟨matcher, hmissed, hkept⟩ := h
      exact ⟨matcher, hmissed, hafter matcher hkept⟩
  | refusedForGood =>
      obtain ⟨matcher, hmissed, hkept⟩ := h
      exact ⟨matcher, hmissed, hafter matcher hkept⟩
  | wrong => exact h

variable [DecidableEq ρ]

namespace Matcher

/-- The kept result of a rule at a place. -/
def memoAt? (matcher : Matcher ρ) (name : ρ) (place : Nat) : Option (Memo ρ) :=
  (matcher.memos[place]?.getD []).find? fun memo => memo.rule = name

theorem memo?_eq_memoAt? {matcher : Matcher ρ} {name : ρ} :
    matcher.memo? name = matcher.memoAt? name matcher.position := rfl

@[simp]
theorem memoAt?_seek {matcher : Matcher ρ} {position : Nat} {name : ρ} {place : Nat} :
    (matcher.seek position).memoAt? name place = matcher.memoAt? name place := rfl

theorem memoAt?_remember {matcher : Matcher ρ} {start : Nat} {memo : Memo ρ}
    (h : start < matcher.memos.size) (name : ρ) (place : Nat) :
    (matcher.remember start memo).memoAt? name place =
      if memo.rule = name ∧ start = place then some memo else matcher.memoAt? name place := by
  simp only [memoAt?, remember, Array.getElem?_modify]
  by_cases hplace : start = place
  · subst hplace
    simp only [h, if_true, Array.getElem?_eq_getElem, Option.map_some, Option.getD_some,
      List.find?_cons]
    by_cases hname : memo.rule = name
    · simp [hname]
    · simp [hname]
  · simp [hplace]

end Matcher

variable (setting : Setting ρ) (view : View ρ)

/-- What a matcher keeps agrees with what is recognized, except for rules that grow. -/
structure Coherent (growing : List (ρ × Nat)) (matcher : Matcher ρ) : Prop where
  quiet : matcher.diagnosing = false
  size : matcher.memos.size = setting.tokens.size + 1
  position_le : matcher.position ≤ setting.tokens.size
  stop_le : ∀ {name place memo}, matcher.memoAt? name place = some memo →
    memo.stop ≤ setting.tokens.size
  agrees : ∀ {name place memo}, matcher.memoAt? name place = some memo →
    (name, place) ∉ growing → ∀ {bound extent},
      view.recognize bound [] none (.rule name) place = some extent → memo.Agrees extent

/-- A matcher is as it should be after another one: nothing has changed for the rules that grow. -/
structure Keeps (growing framed : List (ρ × Nat)) (before after : Matcher ρ) : Prop where
  coherent : Coherent setting view growing after
  frame : ∀ grown ∈ framed, after.memoAt? grown.1 grown.2 = before.memoAt? grown.1 grown.2

/-- A matcher keeps what a rule grows from. -/
def Seeded (growing : List (ρ × Nat)) (seed : Option (Seed ρ)) (matcher : Matcher ρ) : Prop :=
  ∀ from_ ∈ seed, (from_.rule, from_.place) ∈ growing ∧
    (setting.production from_.rule).keeping = .leftRecursive ∧
    ∃ memo, matcher.memoAt? from_.rule from_.place = some memo ∧ memo.Agrees (.ofStop from_.stop)

/-- A view is right about the tokens of a setting, which are all there. -/
structure Faithful : Prop where
  whole : setting.fault = none
  production : view.production = setting.production
  accepted : ∀ {place terminal}, view.answer place terminal = some true →
    ∃ token, setting.tokens[place]? = some token ∧ terminal.accepts token = true ∧
      Setting.isTooLong token = false
  declined : ∀ {place terminal}, view.answer place terminal = some false →
    ∀ token, setting.tokens[place]? = some token → terminal.accepts token = false

/-- A view is right about a setting: what it knows of rules, a matcher finds within the given bound
on the depth. -/
structure Reliable (reserve : Nat) : Prop extends Faithful setting view where
  known : ∀ {name place known}, view.known name place = some known →
    ∀ {bound growing matcher}, reserve ≤ bound → (name, place) ∉ growing →
      Coherent setting view growing matcher → matcher.position = place →
        (setting.matchRule bound name matcher).Has (·.length = 1)
          (Keeps setting view growing growing matcher) known.extent

/-- A matcher finds what a task comes to. What a rule grows from may change while it grows. -/
def Finds (bound : Nat) (growing : List (ρ × Nat)) (seed : Option (Seed ρ)) :
    Task ρ → Nat → Extent → Prop
  | .rule name, place, extent => ∀ matcher : Matcher ρ, matcher.position = place →
      Coherent setting view growing matcher → Seeded setting growing seed matcher →
        (setting.matchRule bound name matcher).Has (·.length = 1)
          (Keeps setting view growing growing matcher) extent
  | .grow name best, place, extent => ∀ (matcher : Matcher ρ) (outer : List (ρ × Nat))
      (tree : Option Tree) (stop : Nat), growing = (name, place) :: outer →
      (name, place) ∉ outer → (setting.production name).keeping = .leftRecursive →
      Coherent setting view growing matcher → place ≤ setting.tokens.size →
      stop ≤ setting.tokens.size → Memo.Agrees ⟨name, tree, stop⟩ (.ofStop best) →
      stop = best.getD place →
        (setting.grow bound name place tree stop matcher).Has (·.length = 1)
          (fun after => Keeps setting view growing outer matcher after ∧
            ∃ memo, after.memoAt? name place = some memo ∧ memo.Agrees extent) extent
  | .choice alternatives, place, extent => ∀ matcher : Matcher ρ, matcher.position = place →
      Coherent setting view growing matcher → Seeded setting growing seed matcher →
        (setting.matchChoice bound alternatives matcher).Has (·.length = 1)
          (Keeps setting view growing growing matcher) extent
  | .items patterns, place, extent => ∀ (matcher : Matcher ρ) (trees : List Tree),
      matcher.position = place → Coherent setting view growing matcher →
      Seeded setting growing seed matcher →
        (setting.matchItems bound patterns trees matcher).Has
          (·.length = trees.length + Pattern.widths patterns)
          (Keeps setting view growing growing matcher) extent
  | .pattern pattern, place, extent => ∀ matcher : Matcher ρ, matcher.position = place →
      Coherent setting view growing matcher → Seeded setting growing seed matcher →
        (setting.matchPattern bound pattern matcher).Has (·.length = pattern.width)
          (Keeps setting view growing growing matcher) extent
  | .repeated separator pattern, place, extent => ∀ (matcher : Matcher ρ) (trees : List Tree),
      matcher.position = place → Coherent setting view growing matcher →
      Seeded setting growing seed matcher →
        (setting.repeatPattern bound separator pattern trees matcher).Has
          (fun found => ∃ line more, found = [.node .sequence line (trees.reverse ++ more)])
          (Keeps setting view growing growing matcher) extent
  | .repeatedOnce pattern, place, extent => ∀ matcher : Matcher ρ, matcher.position = place →
      Coherent setting view growing matcher → Seeded setting growing seed matcher →
        (setting.matchPattern (bound + 1) (.many1 pattern) matcher).Has (·.length = 1)
          (Keeps setting view growing growing matcher) extent

variable {setting : Setting ρ} {view : View ρ} {growing framed : List (ρ × Nat)}
variable {matcher before after later : Matcher ρ} {seed : Option (Seed ρ)} {place : Nat}

theorem Coherent.seek (h : Coherent setting view growing matcher) {position : Nat}
    (hposition : position ≤ setting.tokens.size) :
    Coherent setting view growing (matcher.seek position) :=
  { h with position_le := hposition }

theorem Coherent.reach (h : Coherent setting view growing matcher) (reach : Nat) :
    Coherent setting view growing { matcher with reach := reach } :=
  ⟨h.quiet, h.size, h.position_le, h.stop_le, h.agrees⟩

theorem Keeps.refl (h : Coherent setting view growing matcher) :
    Keeps setting view growing framed matcher matcher :=
  ⟨h, fun _ _ => rfl⟩

theorem Keeps.trans (h : Keeps setting view growing framed before after)
    (hlater : Keeps setting view growing framed after later) :
    Keeps setting view growing framed before later where
  coherent := hlater.coherent
  frame grown hgrown := (hlater.frame grown hgrown).trans (h.frame grown hgrown)

theorem Keeps.seek (h : Keeps setting view growing framed before after) {position : Nat}
    (hposition : position ≤ setting.tokens.size) :
    Keeps setting view growing framed before (after.seek position) :=
  ⟨h.coherent.seek hposition, h.frame⟩

theorem Keeps.reach (h : Keeps setting view growing framed before after) (reach : Nat) :
    Keeps setting view growing framed before { after with reach := reach } :=
  ⟨h.coherent.reach reach, h.frame⟩

theorem Seeded.keeps (h : Seeded setting growing seed before)
    (hkeeps : Keeps setting view growing growing before after) :
    Seeded setting growing seed after := by
  intro from_ hfrom
  obtain ⟨hgrowing, hkeeping, memo, hmemo, hagrees⟩ := h from_ hfrom
  exact ⟨hgrowing, hkeeping, memo, (hkeeps.frame _ hgrowing).trans hmemo, hagrees⟩

theorem Seeded.none : Seeded setting growing none matcher := by
  intro from_ hfrom
  cases hfrom

section

variable {reserve : Nat} {extent : Extent}

theorem Faithful.look (h : Faithful setting view)
    (hcoherent : Coherent setting view growing matcher) :
    ∃ looked, setting.look matcher = .ok (setting.tokens[matcher.position]?, looked) ∧
      looked.position = matcher.position ∧
      (∀ name place, looked.memoAt? name place = matcher.memoAt? name place) ∧
      Keeps setting view growing growing matcher looked := by
  have hkeeps : Keeps setting view growing growing matcher matcher := .refl hcoherent
  unfold Setting.look
  cases htoken : setting.tokens[matcher.position]? with
  | some token => exact ⟨_, rfl, rfl, fun _ _ => rfl, hkeeps.reach _⟩
  | none =>
      simp only [h.whole]
      exact ⟨matcher, rfl, rfl, fun _ _ => rfl, hkeeps⟩

theorem Faithful.accept (h : Faithful setting view) {terminal : Terminal}
    (hanswer : view.answer place terminal = some true) (hplace : matcher.position = place)
    (hcoherent : Coherent setting view growing matcher) :
    ∃ token after, setting.tokens[place]? = some token ∧
      setting.matchToken terminal matcher = .found [.leaf token] after ∧
      after.position = place + 1 ∧ Keeps setting view growing growing matcher after := by
  obtain ⟨looked, hlook, hposition, -, hkeeps⟩ := h.look hcoherent
  rw [hplace] at hlook hposition
  obtain ⟨token, hthere, haccepts, hshort⟩ := h.accepted hanswer
  have hlt : place < setting.tokens.size := (Array.getElem?_eq_some_iff.mp hthere).1
  refine ⟨token, looked.seek (place + 1), hthere, ?_, rfl, hkeeps.seek hlt⟩
  simp [Setting.matchToken, hlook, hthere, haccepts, hshort, hposition]

theorem Faithful.decline (h : Faithful setting view) {terminal : Terminal}
    (hanswer : view.answer place terminal = some false) (hplace : matcher.position = place)
    (hcoherent : Coherent setting view growing matcher) :
    ∃ after, setting.matchToken terminal matcher = .missed after ∧
      Keeps setting view growing growing matcher after := by
  obtain ⟨looked, hlook, -, -, hkeeps⟩ := h.look hcoherent
  rw [hplace] at hlook
  refine ⟨looked, ?_, hkeeps⟩
  cases htoken : setting.tokens[place]? with
  | none => simp only [Setting.matchToken, hlook, htoken]
  | some token =>
      have hdeclined := h.declined hanswer token htoken
      simp [Setting.matchToken, hlook, htoken, hdeclined]

theorem Faithful.token (h : Faithful setting view) {terminal : Terminal}
    (htoken : view.token terminal place = some extent) (hplace : matcher.position = place)
    (hcoherent : Coherent setting view growing matcher) :
    (setting.matchToken terminal matcher).Has (·.length = 1)
      (Keeps setting view growing growing matcher) extent := by
  obtain ⟨accepts, hanswer, rfl⟩ := Option.map_eq_some_iff.mp htoken
  cases accepts with
  | true =>
      obtain ⟨token, after, -, hmatch, hstop, hkeeps⟩ := h.accept hanswer hplace hcoherent
      exact ⟨_, after, hmatch, hstop, rfl, hkeeps⟩
  | false => exact h.decline hanswer hplace hcoherent

variable {recur : View.Recognizer ρ} {bound : Nat}

/-- A matcher finds what a recognizer finds. -/
def Sound (setting : Setting ρ) (view : View ρ) (recur : View.Recognizer ρ) (bound : Nat) : Prop :=
  ∀ {growing seed task place extent}, recur growing seed task place = some extent →
    Finds setting view bound growing seed task place extent

theorem Sound.items (h : Sound setting view recur bound) {patterns : List (Pattern ρ)}
    (hitems : View.items recur growing seed patterns place = some extent) :
    Finds setting view (bound + 1) growing seed (.items patterns) place extent := by
  intro matcher trees hplace hcoherent hseeded
  cases patterns with
  | nil =>
      obtain rfl := Option.some.inj hitems
      exact ⟨trees, matcher, rfl, hplace, by simp [Pattern.widths], .refl hcoherent⟩
  | cons first rest =>
      simp only [View.items] at hitems
      simp only [Setting.matchItems]
      cases hfirst : recur growing seed (.pattern first) place with
      | none => simp [hfirst] at hitems
      | some matched =>
          rw [hfirst] at hitems
          have hfound := h hfirst matcher hplace hcoherent hseeded
          cases matched with
          | upTo stop =>
              obtain ⟨more, after, hmatch, hstop, hwidth, hkeeps⟩ := hfound
              rw [hmatch]
              have hrest := h hitems after (more.reverse ++ trees) hstop hkeeps.coherent
                (hseeded.keeps hkeeps)
              refine hrest.imp ?_ fun _ hlater => hkeeps.trans hlater
              intro found hlength
              simp only [List.length_append, List.length_reverse, hwidth, Pattern.widths] at hlength
              simp only [hlength, Pattern.widths, List.map_cons, List.sum_cons]
              omega
          | refused =>
              obtain rfl := Option.some.inj hitems
              obtain ⟨after, hmatch, hkeeps⟩ := hfound
              exact ⟨after, by rw [hmatch], hkeeps⟩
          | refusedForGood =>
              obtain rfl := Option.some.inj hitems
              obtain ⟨after, hmatch, hkeeps⟩ := hfound
              exact ⟨after, by rw [hmatch], hkeeps⟩
          | wrong =>
              obtain rfl := Option.some.inj hitems
              obtain ⟨mistake, hmatch⟩ := hfound
              exact ⟨mistake, by rw [hmatch]⟩

theorem conclude_has {outcome : Outcome} {start width stop : Nat} {trees : List Tree}
    (hconclude : View.conclude outcome width stop = some extent) (hwidth : trees.length = width)
    (hstop : after.position = stop) (hkeeps : Keeps setting view growing growing before after) :
    (setting.conclude outcome start trees after).Has (·.length = 1)
      (Keeps setting view growing growing before) extent := by
  unfold View.conclude at hconclude
  split at hconclude
  · obtain rfl := Option.some.inj hconclude
    exact ⟨_, after, rfl, hstop, rfl, hkeeps⟩
  · next index =>
      obtain rfl := Option.some.inj hconclude
      by_cases hindex : index < width
      · have hlt : index < trees.length := hwidth ▸ hindex
        simp only [hindex, if_true, Setting.conclude, List.getElem?_eq_getElem hlt]
        exact ⟨_, after, rfl, hstop, rfl, hkeeps⟩
      · have hle : trees.length ≤ index := by omega
        simp only [hindex, if_false, Setting.conclude, List.getElem?_eq_none hle]
        exact ⟨after, rfl, hkeeps⟩
  · cases hconclude

theorem Sound.choice (h : Sound setting view recur bound) {alternatives : List (Alternative ρ)}
    (hchoice : View.choice recur growing seed alternatives place = some extent) :
    Finds setting view (bound + 1) growing seed (.choice alternatives) place extent := by
  intro matcher hplace hcoherent hseeded
  cases alternatives with
  | nil =>
      obtain rfl := Option.some.inj hchoice
      exact ⟨matcher, rfl, .refl hcoherent⟩
  | cons first others =>
      obtain ⟨diagnostic, patterns, committed, outcome⟩ := first
      simp only [View.choice] at hchoice
      simp only [Setting.matchChoice, hcoherent.quiet, Bool.not_false, Bool.and_true]
      split
      · next hdiagnostic =>
          rw [if_pos hdiagnostic] at hchoice
          exact h hchoice matcher hplace hcoherent hseeded
      · next hdiagnostic =>
          rw [if_neg hdiagnostic] at hchoice
          cases hitems : recur growing seed (.items patterns) place with
          | none => simp [hitems] at hchoice
          | some matched =>
              rw [hitems] at hchoice
              have hfound := h hitems matcher [] hplace hcoherent hseeded
              cases matched with
              | upTo middle =>
                  obtain ⟨trees, after, hmatch, hmiddle, hwidth, hkeeps⟩ := hfound
                  rw [hmatch]
                  simp only at hchoice ⊢
                  cases hrest : recur growing seed (.items committed) middle with
                  | none => simp [hrest] at hchoice
                  | some rest =>
                      rw [hrest] at hchoice
                      have hmore := h hrest after trees hmiddle hkeeps.coherent
                        (hseeded.keeps hkeeps)
                      cases rest with
                      | upTo stop =>
                          obtain ⟨all, later, hmatch', hstop, hwidth', hkeeps'⟩ := hmore
                          rw [hmatch']
                          refine conclude_has hchoice ?_ hstop (hkeeps.trans hkeeps')
                          simpa [hwidth] using hwidth'
                      | refused =>
                          obtain rfl := Option.some.inj hchoice
                          obtain ⟨later, hmatch', hkeeps'⟩ := hmore
                          exact ⟨later, by rw [hmatch'], hkeeps.trans hkeeps'⟩
                      | refusedForGood =>
                          obtain rfl := Option.some.inj hchoice
                          obtain ⟨later, hmatch', hkeeps'⟩ := hmore
                          exact ⟨later, by rw [hmatch'], hkeeps.trans hkeeps'⟩
                      | wrong =>
                          obtain rfl := Option.some.inj hchoice
                          obtain ⟨mistake, hmatch'⟩ := hmore
                          exact ⟨mistake, by rw [hmatch']⟩
              | refused =>
                  obtain ⟨after, hmatch, hkeeps⟩ := hfound
                  rw [hmatch]
                  have hback := hkeeps.seek (hplace ▸ hcoherent.position_le)
                  have hothers := h hchoice (after.seek place) rfl hback.coherent
                    (hseeded.keeps hback)
                  simp only [hplace]
                  exact hothers.imp (fun _ => id) fun _ hlater => hback.trans hlater
              | refusedForGood =>
                  obtain rfl := Option.some.inj hchoice
                  obtain ⟨after, hmatch, hkeeps⟩ := hfound
                  exact ⟨after, by rw [hmatch], hkeeps⟩
              | wrong =>
                  obtain rfl := Option.some.inj hchoice
                  obtain ⟨mistake, hmatch⟩ := hfound
                  exact ⟨mistake, by rw [hmatch]⟩

/-- Matches what stands before a repetition, if anything does. -/
def Setting.matchSeparator (setting : Setting ρ) : Option Terminal → Matcher ρ → Matched ρ
  | none, matcher => .found [] matcher
  | some terminal, matcher => setting.matchToken terminal matcher

theorem repeatPattern_succ (separator : Option Terminal) (pattern : Pattern ρ) (trees : List Tree) :
    setting.repeatPattern (bound + 1) separator pattern trees matcher =
      let finish := fun (after : Matcher ρ) =>
        Matched.found [.node .sequence ((trees.getLast?.map (·.line)).getD 0) trees.reverse]
          (after.seek matcher.position)
      match setting.matchSeparator separator matcher with
      | .found _ after =>
          match setting.matchPattern bound pattern after with
          | .found more later =>
              setting.repeatPattern bound separator pattern (more.reverse ++ trees) later
          | .missed later => finish later
          | .missedForGood later => finish later
          | result => result
      | .missed after => finish after
      | result => result := by
  cases separator with
  | none => rfl
  | some terminal => rfl

theorem Faithful.separator (h : Faithful setting view) {separator : Option Terminal}
    (hseparated : view.separated separator place = some extent) (hplace : matcher.position = place)
    (hcoherent : Coherent setting view growing matcher) :
    extent = .refused ∧ (∃ after, setting.matchSeparator separator matcher = .missed after ∧
        Keeps setting view growing growing matcher after) ∨
      ∃ trees after stop, extent = .upTo stop ∧
        setting.matchSeparator separator matcher = .found trees after ∧ after.position = stop ∧
        Keeps setting view growing growing matcher after := by
  cases separator with
  | none =>
      obtain rfl := Option.some.inj hseparated
      exact .inr ⟨[], matcher, place, rfl, rfl, hplace, .refl hcoherent⟩
  | some terminal =>
      have hmatch := h.token hseparated hplace hcoherent
      obtain ⟨accepts, -, rfl⟩ := Option.map_eq_some_iff.mp hseparated
      cases accepts with
      | true =>
          obtain ⟨trees, after, hfound, hstop, -, hkeeps⟩ := hmatch
          exact .inr ⟨trees, after, _, rfl, hfound, hstop, hkeeps⟩
      | false => exact .inl ⟨rfl, hmatch⟩

theorem Sound.repeated (h : Sound setting view recur bound) (hfaithful : Faithful setting view)
    {separator : Option Terminal} {pattern : Pattern ρ}
    (hrepeated : view.repeated recur growing seed separator pattern place = some extent) :
    Finds setting view (bound + 1) growing seed (.repeated separator pattern) place extent := by
  intro matcher trees hplace hcoherent hseeded
  have hwithin : place ≤ setting.tokens.size := hplace ▸ hcoherent.position_le
  simp only [View.repeated] at hrepeated
  rw [repeatPattern_succ]
  simp only [hplace]
  cases hbefore : view.separated separator place with
  | none => simp [hbefore] at hrepeated
  | some found =>
      rw [hbefore] at hrepeated
      rcases hfaithful.separator hbefore hplace hcoherent with
        ⟨rfl, after, hmatch, hkeeps⟩ | ⟨_, after, next, rfl, hmatch, hnext, hkeeps⟩
      · obtain rfl := Option.some.inj hrepeated
        rw [hmatch]
        exact ⟨_, _, rfl, rfl, ⟨_, [], by rw [List.append_nil]⟩, hkeeps.seek hwithin⟩
      · rw [hmatch]
        simp only at hrepeated ⊢
        cases hpart : recur growing seed (.pattern pattern) next with
        | none => simp [hpart] at hrepeated
        | some matched =>
            rw [hpart] at hrepeated
            have hmatched := h hpart after hnext hkeeps.coherent (hseeded.keeps hkeeps)
            cases matched with
            | upTo stop =>
                obtain ⟨more, later, hmatch', hstop, -, hkeeps'⟩ := hmatched
                rw [hmatch']
                have hboth := hkeeps.trans hkeeps'
                have hrest := h hrepeated later (more.reverse ++ trees) hstop hboth.coherent
                  (hseeded.keeps hboth)
                refine hrest.imp ?_ fun _ hlast => hboth.trans hlast
                rintro found ⟨line, others, rfl⟩
                exact ⟨line, more ++ others, by simp⟩
            | wrong =>
                obtain rfl := Option.some.inj hrepeated
                obtain ⟨mistake, hmatch'⟩ := hmatched
                exact ⟨mistake, by rw [hmatch']⟩
            | _ =>
                -- A separator that nothing follows is given back.
                obtain rfl := Option.some.inj hrepeated
                obtain ⟨later, hmatch', hkeeps'⟩ := hmatched
                rw [hmatch']
                exact ⟨_, _, rfl, rfl, ⟨_, [], by rw [List.append_nil]⟩,
                  (hkeeps.trans hkeeps').seek hwithin⟩

theorem Sound.repeatedOnce (h : Sound setting view recur bound) {pattern : Pattern ρ}
    (hrepeated : View.repeatedOnce recur growing seed pattern place = some extent) :
    Finds setting view (bound + 1) growing seed (.repeatedOnce pattern) place extent := by
  intro matcher hplace hcoherent hseeded
  have hwithin : place ≤ setting.tokens.size := hplace ▸ hcoherent.position_le
  simp only [View.repeatedOnce] at hrepeated
  simp only [Setting.matchPattern, Setting.repeatPattern, hplace]
  split at hrepeated
  · cases hrepeated
  · next hwidth =>
      cases hpart : recur growing seed (.pattern pattern) place with
      | none => simp [hpart] at hrepeated
      | some found =>
          rw [hpart] at hrepeated
          have hfound := h hpart matcher hplace hcoherent hseeded
          cases found with
          | upTo stop =>
              obtain ⟨more, after, hmatch, hstop, hmore, hkeeps⟩ := hfound
              rw [hmatch]
              have hrest := h hrepeated after (more.reverse ++ []) hstop hkeeps.coherent
                (hseeded.keeps hkeeps)
              cases extent with
              | upTo last =>
                  obtain ⟨found, later, hmatch', hlast, ⟨line, others, rfl⟩, hkeeps'⟩ := hrest
                  obtain ⟨first, rest, rfl⟩ : ∃ first rest, more = first :: rest := by
                    cases more with
                    | nil => exact absurd hmore.symm hwidth
                    | cons first rest => exact ⟨first, rest, rfl⟩
                  simp only [hmatch']
                  simp only [List.append_nil, List.reverse_reverse, List.cons_append]
                  exact ⟨_, later, rfl, hlast, rfl, hkeeps.trans hkeeps'⟩
              | refused =>
                  obtain ⟨later, hmatch', hkeeps'⟩ := hrest
                  simp only [hmatch']
                  exact ⟨later, rfl, hkeeps.trans hkeeps'⟩
              | refusedForGood =>
                  obtain ⟨later, hmatch', hkeeps'⟩ := hrest
                  simp only [hmatch']
                  exact ⟨later, rfl, hkeeps.trans hkeeps'⟩
              | wrong =>
                  obtain ⟨mistake, hmatch'⟩ := hrest
                  simp only [hmatch']
                  exact ⟨mistake, rfl⟩
          | wrong =>
              obtain rfl := Option.some.inj hrepeated
              obtain ⟨mistake, hmatch⟩ := hfound
              rw [hmatch]
              exact ⟨mistake, rfl⟩
          | _ =>
              obtain rfl := Option.some.inj hrepeated
              obtain ⟨after, hmatch, hkeeps⟩ := hfound
              rw [hmatch]
              exact ⟨_, rfl, hkeeps.seek hwithin⟩

theorem Sound.pattern (h : Sound setting view recur bound)
    (hfaithful : Faithful setting view) {pattern : Pattern ρ}
    (hpattern : view.pattern recur growing seed pattern place = some extent) :
    Finds setting view (bound + 1) growing seed (.pattern pattern) place extent := by
  intro matcher hplace hcoherent hseeded
  have hwithin : place ≤ setting.tokens.size := hplace ▸ hcoherent.position_le
  cases pattern with
  | token terminal =>
      simp only [Setting.matchPattern]
      exact hfaithful.token hpattern hplace hcoherent
  | forced terminal =>
      simp only [View.pattern] at hpattern
      simp only [Setting.matchPattern]
      cases htoken : view.token terminal place with
      | none => simp [htoken] at hpattern
      | some found =>
          rw [htoken] at hpattern
          have hfound := hfaithful.token htoken hplace hcoherent
          cases found with
          | upTo stop =>
              obtain rfl := Option.some.inj hpattern
              obtain ⟨trees, after, hmatch, hstop, hlength, hkeeps⟩ := hfound
              exact ⟨trees, after, by rw [hmatch], hstop, hlength, hkeeps⟩
          | refused =>
              obtain rfl := Option.some.inj hpattern
              obtain ⟨after, hmatch, -⟩ := hfound
              exact ⟨_, by rw [hmatch]⟩
          | refusedForGood =>
              obtain rfl := Option.some.inj hpattern
              obtain ⟨after, hmatch, hkeeps⟩ := hfound
              exact ⟨after, by rw [hmatch], hkeeps⟩
          | wrong =>
              obtain rfl := Option.some.inj hpattern
              obtain ⟨mistake, hmatch⟩ := hfound
              exact ⟨mistake, by rw [hmatch]⟩
  | rule name =>
      simp only [Setting.matchPattern]
      exact h hpattern matcher hplace hcoherent hseeded
  | choice alternatives =>
      simp only [Setting.matchPattern]
      exact h hpattern matcher hplace hcoherent hseeded
  | many part =>
      simp only [Setting.matchPattern]
      refine (h hpattern matcher [] hplace hcoherent hseeded).imp ?_ fun _ => id
      rintro found ⟨line, more, rfl⟩
      rfl
  | many1 part => exact h hpattern matcher hplace hcoherent hseeded
  | optional part =>
      simp only [View.pattern] at hpattern
      simp only [Setting.matchPattern, hplace]
      cases hpart : recur growing seed (.pattern part) place with
      | none => simp [hpart] at hpattern
      | some found =>
          rw [hpart] at hpattern
          have hfound := h hpart matcher hplace hcoherent hseeded
          cases found with
          | upTo stop =>
              obtain rfl := Option.some.inj hpattern
              obtain ⟨trees, after, hmatch, hstop, -, hkeeps⟩ := hfound
              exact ⟨_, after, by rw [hmatch], hstop, rfl, hkeeps⟩
          | wrong =>
              obtain rfl := Option.some.inj hpattern
              obtain ⟨mistake, hmatch⟩ := hfound
              exact ⟨mistake, by rw [hmatch]⟩
          | _ =>
              obtain rfl := Option.some.inj hpattern
              obtain ⟨after, hmatch, hkeeps⟩ := hfound
              exact ⟨_, after.seek place, by rw [hmatch], rfl, rfl, hkeeps.seek hwithin⟩
  | separated separator part =>
      simp only [View.pattern] at hpattern
      simp only [Setting.matchPattern]
      cases hpart : recur growing seed (.pattern part) place with
      | none => simp [hpart] at hpattern
      | some found =>
          rw [hpart] at hpattern
          have hfound := h hpart matcher hplace hcoherent hseeded
          cases found with
          | upTo stop =>
              obtain ⟨trees, after, hmatch, hstop, -, hkeeps⟩ := hfound
              rw [hmatch]
              have hrest := h hpattern after trees.reverse hstop hkeeps.coherent
                (hseeded.keeps hkeeps)
              refine hrest.imp ?_ fun _ hlater => hkeeps.trans hlater
              rintro found ⟨line, more, rfl⟩
              rfl
          | wrong =>
              obtain rfl := Option.some.inj hpattern
              obtain ⟨mistake, hmatch⟩ := hfound
              exact ⟨mistake, by rw [hmatch]⟩
          | _ =>
              obtain rfl := Option.some.inj hpattern
              obtain ⟨after, hmatch, hkeeps⟩ := hfound
              exact ⟨after, by rw [hmatch], hkeeps⟩
  | ahead part =>
      simp only [View.pattern] at hpattern
      simp only [Setting.matchPattern, hplace]
      cases hpart : recur growing seed (.pattern part) place with
      | none => simp [hpart] at hpattern
      | some found =>
          rw [hpart] at hpattern
          have hfound := h hpart matcher hplace hcoherent hseeded
          cases found with
          | upTo stop =>
              obtain rfl := Option.some.inj hpattern
              obtain ⟨trees, after, hmatch, -, -, hkeeps⟩ := hfound
              exact ⟨[], after.seek place, by rw [hmatch], rfl, rfl, hkeeps.seek hwithin⟩
          | wrong =>
              obtain rfl := Option.some.inj hpattern
              obtain ⟨mistake, hmatch⟩ := hfound
              exact ⟨mistake, by rw [hmatch]⟩
          | _ =>
              obtain rfl := Option.some.inj hpattern
              obtain ⟨after, hmatch, hkeeps⟩ := hfound
              exact ⟨after, by rw [hmatch], hkeeps⟩
  | notAhead part =>
      simp only [View.pattern] at hpattern
      simp only [Setting.matchPattern, hplace]
      cases hpart : recur growing seed (.pattern part) place with
      | none => simp [hpart] at hpattern
      | some found =>
          rw [hpart] at hpattern
          have hfound := h hpart matcher hplace hcoherent hseeded
          cases found with
          | upTo stop =>
              obtain rfl := Option.some.inj hpattern
              obtain ⟨trees, after, hmatch, -, -, hkeeps⟩ := hfound
              exact ⟨after.seek place, by rw [hmatch], hkeeps.seek hwithin⟩
          | wrong =>
              obtain rfl := Option.some.inj hpattern
              obtain ⟨mistake, hmatch⟩ := hfound
              exact ⟨mistake, by rw [hmatch]⟩
          | _ =>
              obtain rfl := Option.some.inj hpattern
              obtain ⟨after, hmatch, hkeeps⟩ := hfound
              exact ⟨[], after.seek place, by rw [hmatch], rfl, rfl, hkeeps.seek hwithin⟩

theorem Coherent.start_lt (h : Coherent setting view growing matcher)
    (hplace : place ≤ setting.tokens.size) : place < matcher.memos.size := by
  rw [h.size]
  omega

theorem Coherent.remember (h : Coherent setting view growing matcher) {memo : Memo ρ}
    (hplace : place ≤ setting.tokens.size) (hstop : memo.stop ≤ setting.tokens.size)
    (hagrees : (memo.rule, place) ∉ growing → ∀ {bound extent},
      view.recognize bound [] none (.rule memo.rule) place = some extent → memo.Agrees extent) :
    Coherent setting view growing (matcher.remember place memo) where
  quiet := h.quiet
  size := by simpa [Matcher.remember] using h.size
  position_le := h.position_le
  stop_le := by
    intro name start other hother
    rw [Matcher.memoAt?_remember (h.start_lt hplace)] at hother
    split at hother
    · obtain rfl := Option.some.inj hother
      exact hstop
    · exact h.stop_le hother
  agrees := by
    intro name start other hother hnot
    rw [Matcher.memoAt?_remember (h.start_lt hplace)] at hother
    split at hother
    · next heq =>
        obtain ⟨rfl, rfl⟩ := heq
        obtain rfl := Option.some.inj hother
        exact hagrees hnot
    · exact h.agrees hother hnot

theorem Keeps.remember (h : Keeps setting view growing framed before after) {memo : Memo ρ}
    (hplace : place ≤ setting.tokens.size) (hstop : memo.stop ≤ setting.tokens.size)
    (hagrees : (memo.rule, place) ∉ growing → ∀ {bound extent},
      view.recognize bound [] none (.rule memo.rule) place = some extent → memo.Agrees extent)
    (hframed : (memo.rule, place) ∉ framed) :
    Keeps setting view growing framed before (after.remember place memo) where
  coherent := h.coherent.remember hplace hstop hagrees
  frame := by
    intro grown hgrown
    rw [Matcher.memoAt?_remember (h.coherent.start_lt hplace), if_neg]
    · exact h.frame grown hgrown
    · rintro ⟨hname, hstart⟩
      rw [hname, hstart] at hframed
      exact hframed hgrown

theorem Keeps.settle {name : ρ} {outer : List (ρ × Nat)} {tree : Option Tree} {stop : Nat}
    {best : Option Nat}
    (hstart : Keeps setting view ((name, place) :: outer) outer matcher before)
    (hmemo : before.memoAt? name place = some ⟨name, tree, stop⟩)
    (hwithin : stop ≤ setting.tokens.size) (hbest : Memo.Agrees ⟨name, tree, stop⟩ (.ofStop best))
    (hstop : stop = best.getD place)
    (hafter : Keeps setting view ((name, place) :: outer) ((name, place) :: outer) before after) :
    (match tree with
      | some tree => Matched.found [tree] (after.seek stop)
      | none => .missed (after.seek stop)).Has (·.length = 1)
      (fun after => Keeps setting view ((name, place) :: outer) outer matcher after ∧
        ∃ memo, after.memoAt? name place = some memo ∧ memo.Agrees (.ofStop best))
      (.ofStop best) := by
  have hkept : Keeps setting view ((name, place) :: outer) outer matcher (after.seek stop) :=
    (hstart.trans ⟨hafter.coherent, fun grown hgrown =>
      hafter.frame grown (by simp [hgrown])⟩).seek hwithin
  have hlast : (after.seek stop).memoAt? name place = some ⟨name, tree, stop⟩ :=
    (hafter.frame (name, place) (by simp)).trans hmemo
  cases best with
  | none =>
      obtain rfl : tree = none := hbest
      exact ⟨_, rfl, hkept, _, hlast, rfl⟩
  | some last =>
      obtain ⟨hsome, -⟩ := hbest
      obtain ⟨tree, rfl⟩ := Option.isSome_iff_exists.mp hsome
      exact ⟨_, _, rfl, hstop, rfl, hkept, _, hlast, hsome, hstop⟩

theorem Sound.grow (h : Sound setting view recur bound) (hfaithful : Faithful setting view)
    {name : ρ} {best : Option Nat}
    (hgrow : view.grow recur growing seed name best place = some extent) :
    Finds setting view (bound + 1) growing seed (.grow name best) place extent := by
  intro matcher outer tree stop hgrowing houter hkeeping hcoherent hplace hwithin hbest hstop
  subst hgrowing
  simp only [View.grow, hfaithful.production] at hgrow
  simp only [Setting.grow]
  -- The matcher that tries the alternatives keeps the match to grow from.
  have hmemo : ((matcher.remember place ⟨name, tree, stop⟩).seek place).memoAt? name place =
      some ⟨name, tree, stop⟩ := by
    rw [Matcher.memoAt?_seek, Matcher.memoAt?_remember (hcoherent.start_lt hplace)]
    simp
  have hstart : Keeps setting view ((name, place) :: outer) outer matcher
      ((matcher.remember place ⟨name, tree, stop⟩).seek place) :=
    ((Keeps.refl hcoherent).remember hplace hwithin (fun hnot => absurd (by simp) hnot)
      houter).seek hplace
  have hseeded : Seeded setting ((name, place) :: outer) (some ⟨name, place, best⟩)
      ((matcher.remember place ⟨name, tree, stop⟩).seek place) := by
    intro from_ hfrom
    obtain rfl := Option.some.inj hfrom
    exact ⟨by simp, hkeeping, _, hmemo, hbest⟩
  cases hchoice : recur ((name, place) :: outer) (some ⟨name, place, best⟩)
      (.choice (setting.production name).alternatives) place with
  | none => simp [hchoice] at hgrow
  | some found =>
      rw [hchoice] at hgrow
      have hfound := h hchoice _ rfl hstart.coherent hseeded
      cases found with
      | upTo longer =>
          obtain ⟨trees, after, hmatch, hlonger, hlength, hkeeps⟩ := hfound
          rw [hmatch]
          simp only [hlonger, ← hstop] at hgrow ⊢
          split
          · next hle =>
              rw [if_pos hle] at hgrow
              obtain rfl := Option.some.inj hgrow
              exact hstart.settle hmemo hwithin hbest hstop hkeeps
          · next hlt =>
              rw [if_neg hlt] at hgrow
              have hframe : Keeps setting view ((name, place) :: outer) outer matcher after :=
                hstart.trans ⟨hkeeps.coherent, fun grown hgrown =>
                  hkeeps.frame grown (by simp [hgrown])⟩
              have hhead : Memo.Agrees ⟨name, trees.head?, longer⟩ (.ofStop (some longer)) := by
                refine ⟨?_, rfl⟩
                cases trees with
                | nil => cases hlength
                | cons first rest => rfl
              have hrest := h hgrow after outer trees.head? longer rfl houter hkeeping
                hkeeps.coherent hplace (hlonger ▸ hkeeps.coherent.position_le) hhead rfl
              refine hrest.imp (fun _ => id) ?_
              rintro last ⟨hlast, hagrees⟩
              exact ⟨hframe.trans hlast, hagrees⟩
      | refused =>
          obtain rfl := Option.some.inj hgrow
          obtain ⟨after, hmatch, hkeeps⟩ := hfound
          rw [hmatch]
          exact hstart.settle hmemo hwithin hbest hstop hkeeps
      | refusedForGood =>
          obtain rfl := Option.some.inj hgrow
          obtain ⟨after, hmatch, hkeeps⟩ := hfound
          rw [hmatch]
          exact hstart.settle hmemo hwithin hbest hstop hkeeps
      | wrong =>
          obtain rfl := Option.some.inj hgrow
          obtain ⟨mistake, hmatch⟩ := hfound
          exact ⟨mistake, by rw [hmatch]⟩

theorem Faithful.kept (h : Faithful setting view) {name : ρ} {memo : Memo ρ}
    (hplace : matcher.position = place) (hcoherent : Coherent setting view growing matcher)
    (hkeeping : (setting.production name).keeping ≠ .fresh)
    (hmemo : matcher.memoAt? name place = some memo) (hagrees : memo.Agrees extent) :
    (setting.matchRule (bound + 1) name matcher).Has (·.length = 1)
      (Keeps setting view growing growing matcher) extent := by
  obtain ⟨looked, hlook, hposition, hmemos, hkeeps⟩ := h.look hcoherent
  have hlooked : looked.memo? name = some memo := by
    rw [Matcher.memo?_eq_memoAt?, hmemos, hposition, hplace, hmemo]
  have hfound : ∀ tree, memo.tree = some tree →
      setting.matchRule (bound + 1) name matcher = .found [tree] (looked.seek memo.stop) := by
    intro tree htree
    simp only [Setting.matchRule]
    cases hkept : (setting.production name).keeping with
    | fresh => exact absurd hkept hkeeping
    | remembered => simp only [hlook, hlooked, htree]
    | leftRecursive => simp only [hlook, hlooked, htree]
  have hmissed : memo.tree = none →
      setting.matchRule (bound + 1) name matcher = .missed looked := by
    intro htree
    simp only [Setting.matchRule]
    cases hkept : (setting.production name).keeping with
    | fresh => exact absurd hkept hkeeping
    | remembered => simp only [hlook, hlooked, htree]
    | leftRecursive => simp only [hlook, hlooked, htree]
  cases extent with
  | upTo stop =>
      obtain ⟨hsome, hstop⟩ := hagrees
      obtain ⟨tree, htree⟩ := Option.isSome_iff_exists.mp hsome
      exact ⟨_, _, hfound tree htree, hstop, rfl, hkeeps.seek (hcoherent.stop_le hmemo)⟩
  | refused => exact ⟨_, hmissed hagrees, hkeeps⟩
  | refusedForGood => exact hagrees.elim
  | wrong => exact hagrees.elim

theorem Faithful.remembered (h : Faithful setting view) {name : ρ}
    (hplace : matcher.position = place) (hcoherent : Coherent setting view growing matcher)
    (hkeeping : (setting.production name).keeping = .remembered)
    (hmemo : matcher.memoAt? name place = none) (hnot : (name, place) ∉ growing)
    (hrule : view.recognize bound growing none (.rule name) place = some extent.settled)
    {depth : Nat}
    (hchoice : ∀ after, after.position = place → Coherent setting view growing after →
      (setting.matchChoice depth (setting.production name).alternatives after).Has (·.length = 1)
        (Keeps setting view growing growing after) extent) :
    (setting.matchRule (depth + 1) name matcher).Has (·.length = 1)
      (Keeps setting view growing growing matcher) extent.settled := by
  have hwithin : place ≤ setting.tokens.size := hplace ▸ hcoherent.position_le
  obtain ⟨looked, hlook, hposition, hmemos, hkeeps⟩ := h.look hcoherent
  rw [hplace] at hposition
  have hlooked : looked.memo? name = none := by
    rw [Matcher.memo?_eq_memoAt?, hmemos, hposition, hmemo]
  have hfound := hchoice looked hposition hkeeps.coherent
  -- A result that is kept agrees with all that is recognized of the rule.
  have hagrees : ∀ {memo : Memo ρ}, memo.rule = name → memo.Agrees extent.settled →
      ∀ {other found}, view.recognize other [] none (.rule memo.rule) place = some found →
        memo.Agrees found := by
    intro memo hname hmemo other found hother
    rw [hname] at hother
    rw [View.recognize_unique hother hrule]
    exact hmemo
  simp only [Setting.matchRule, hkeeping, hlook, hlooked, reduceCtorEq, if_false, hposition]
  cases extent with
  | upTo stop =>
      obtain ⟨trees, after, hmatch, hstop, hlength, hafter⟩ := hfound
      rw [hmatch]
      have hhead : trees.head?.isSome := by
        cases trees with
        | nil => cases hlength
        | cons first rest => rfl
      refine ⟨trees, _, rfl, hstop, hlength, (hkeeps.trans hafter).remember hwithin ?_ ?_ hnot⟩
      · exact hafter.coherent.position_le
      · exact fun _ => hagrees rfl ⟨hhead, hstop⟩
  | refused =>
      obtain ⟨after, hmatch, hafter⟩ := hfound
      rw [hmatch]
      have hnone : Memo.Agrees ⟨name, none, place⟩ .refused := rfl
      exact ⟨_, rfl, (hkeeps.trans hafter).remember hwithin hwithin
        (fun _ => hagrees rfl hnone) hnot⟩
  | refusedForGood =>
      obtain ⟨after, hmatch, hafter⟩ := hfound
      rw [hmatch]
      have hnone : Memo.Agrees ⟨name, none, place⟩ .refused := rfl
      exact ⟨_, rfl, (hkeeps.trans hafter).remember hwithin hwithin
        (fun _ => hagrees rfl hnone) hnot⟩
  | wrong =>
      obtain ⟨mistake, hmatch⟩ := hfound
      rw [hmatch]
      exact ⟨mistake, rfl⟩

theorem Faithful.fresh {name : ρ} (hcoherent : Coherent setting view growing matcher)
    (hkeeping : (setting.production name).keeping = .fresh) {depth : Nat}
    (hchoice :
      (setting.matchChoice depth (setting.production name).alternatives matcher).Has
        (·.length = 1) (Keeps setting view growing growing matcher) extent) :
    (setting.matchRule (depth + 1) name matcher).Has (·.length = 1)
      (Keeps setting view growing growing matcher) extent.settled := by
  have hquiet : ∀ {after : Matcher ρ}, after.diagnosing = false →
      ({ after with diagnosing := false } : Matcher ρ) = after := by
    intro after hafter
    cases after
    simp_all
  simp only [Setting.matchRule, hkeeping, hcoherent.quiet, Bool.false_and,
    hquiet hcoherent.quiet]
  cases extent with
  | upTo stop =>
      obtain ⟨trees, after, hmatch, hstop, hlength, hafter⟩ := hchoice
      rw [hmatch]
      simp only [hquiet hafter.coherent.quiet]
      exact ⟨trees, after, rfl, hstop, hlength, hafter⟩
  | refused =>
      obtain ⟨after, hmatch, hafter⟩ := hchoice
      rw [hmatch]
      simp only [hquiet hafter.coherent.quiet]
      exact ⟨after, rfl, hafter⟩
  | refusedForGood =>
      obtain ⟨after, hmatch, hafter⟩ := hchoice
      rw [hmatch]
      simp only [hquiet hafter.coherent.quiet]
      exact ⟨after, rfl, hafter⟩
  | wrong =>
      obtain ⟨mistake, hmatch⟩ := hchoice
      rw [hmatch]
      exact ⟨mistake, rfl⟩

theorem Faithful.grown (h : Faithful setting view) {name : ρ}
    (hplace : matcher.position = place) (hcoherent : Coherent setting view growing matcher)
    (hkeeping : (setting.production name).keeping = .leftRecursive)
    (hmemo : matcher.memoAt? name place = none) (hnot : (name, place) ∉ growing)
    (hrule : view.recognize bound growing none (.rule name) place = some extent) {depth : Nat}
    (hgrow : Finds setting view depth ((name, place) :: growing) none (.grow name none) place
      extent) :
    (setting.matchRule (depth + 1) name matcher).Has (·.length = 1)
      (Keeps setting view growing growing matcher) extent := by
  have hwithin : place ≤ setting.tokens.size := hplace ▸ hcoherent.position_le
  obtain ⟨looked, hlook, hposition, hmemos, hkeeps⟩ := h.look hcoherent
  rw [hplace] at hposition
  have hlooked : looked.memo? name = none := by
    rw [Matcher.memo?_eq_memoAt?, hmemos, hposition, hmemo]
  have hmatch : setting.matchRule (depth + 1) name matcher =
      setting.grow depth name place none place looked := by
    simp only [Setting.matchRule, hkeeping, hlook, hlooked, if_true, hposition]
  have hwider : Coherent setting view ((name, place) :: growing) looked :=
    ⟨hkeeps.coherent.quiet, hkeeps.coherent.size, hkeeps.coherent.position_le,
      hkeeps.coherent.stop_le, fun hother hnew =>
        hkeeps.coherent.agrees hother fun hold => hnew (by simp [hold])⟩
  have hfound := hgrow looked growing none place rfl hnot hkeeping hwider hwithin hwithin rfl rfl
  rw [hmatch]
  refine hfound.imp (fun _ => id) ?_
  rintro after ⟨hafter, memo, hlast, hagrees⟩
  refine ⟨⟨hafter.coherent.quiet, hafter.coherent.size, hafter.coherent.position_le,
    hafter.coherent.stop_le, ?_⟩, ?_⟩
  · intro other start kept hkept hother inside found hinside
    by_cases heq : (other, start) = (name, place)
    · obtain ⟨rfl, rfl⟩ := Prod.mk.inj heq
      rw [hlast] at hkept
      obtain rfl := Option.some.inj hkept
      rw [View.recognize_unique hinside hrule]
      exact hagrees
    · exact hafter.coherent.agrees hkept (by simp [heq, hother]) hinside
  · intro grown hgrown
    exact (hafter.frame grown hgrown).trans (hkeeps.frame grown hgrown)

theorem Seed.at?_eq_some {name : ρ} (h : Seed.at? seed name place = some extent) :
    ∃ stop, seed = some ⟨name, place, stop⟩ ∧ extent = .ofStop stop := by
  obtain ⟨⟨other, start, stop⟩, rfl, hsome⟩ := Option.bind_eq_some_iff.mp h
  split at hsome
  · next heq =>
      obtain ⟨rfl, rfl⟩ := heq
      obtain rfl := Option.some.inj hsome
      exact ⟨stop, rfl, rfl⟩
  · cases hsome

/-- What is recognized of a rule is found. A kept result is used, or one is kept. -/
theorem Sound.rule {inside : Nat} (h : Sound setting view (view.recognize inside) bound)
    (hreliable : Reliable setting view reserve) (hbound : reserve ≤ bound + 1) {name : ρ}
    (hrule : view.recognize (inside + 1) growing seed (.rule name) place = some extent) :
    Finds setting view (bound + 1) growing seed (.rule name) place extent := by
  intro matcher hplace hcoherent hseeded
  have hstep : view.rule (view.recognize inside) growing seed name place = some extent := hrule
  cases hseed : Seed.at? seed name place with
  | some seeded =>
      obtain ⟨stop, rfl, rfl⟩ := Seed.at?_eq_some hseed
      simp only [View.rule, hseed] at hstep
      obtain rfl := Option.some.inj hstep
      obtain ⟨-, hkeeping, memo, hmemo, hagrees⟩ := hseeded _ rfl
      exact hreliable.kept hplace hcoherent (by simp [hkeeping]) hmemo hagrees
  | none =>
      have hunseeded : view.recognize (inside + 1) growing none (.rule name) place =
          some extent := (View.rule_of_unseeded hseed).symm.trans hrule
      simp only [View.rule, hseed, hreliable.production] at hstep
      split at hstep
      · cases hstep
      next hnot =>
      rw [List.contains_eq_mem, decide_eq_true_eq] at hnot
      cases hknown : view.known name place with
      | some known =>
          simp only [hknown] at hstep
          split at hstep
          · obtain rfl := Option.some.inj hstep
            exact hreliable.known hknown hbound hnot hcoherent hplace
          · cases hstep
      | none =>
          simp only [hknown] at hstep
          split at hstep
          · cases hstep
          cases hkeeping : (setting.production name).keeping with
          | fresh =>
              simp only [hkeeping, reduceCtorEq, if_false] at hstep
              obtain ⟨found, hfound, rfl⟩ := Option.map_eq_some_iff.mp hstep
              exact Faithful.fresh hcoherent hkeeping
                (h hfound matcher hplace hcoherent Seeded.none)
          | remembered =>
              simp only [hkeeping, reduceCtorEq, if_false] at hstep
              obtain ⟨found, hfound, rfl⟩ := Option.map_eq_some_iff.mp hstep
              cases hmemo : matcher.memoAt? name place with
              | some memo =>
                  have hagrees := hcoherent.agrees hmemo hnot
                    (View.recognize_mono hunseeded le_rfl (List.nil_subset growing))
                  exact hreliable.kept hplace hcoherent (by simp [hkeeping]) hmemo hagrees
              | none =>
                  refine hreliable.remembered hplace hcoherent hkeeping hmemo hnot hunseeded ?_
                  intro after hafter hlater
                  exact h hfound after hafter hlater Seeded.none
          | leftRecursive =>
              simp only [hkeeping, if_true] at hstep
              cases hmemo : matcher.memoAt? name place with
              | some memo =>
                  have hagrees := hcoherent.agrees hmemo hnot
                    (View.recognize_mono hunseeded le_rfl (List.nil_subset growing))
                  exact hreliable.kept hplace hcoherent (by simp [hkeeping]) hmemo hagrees
              | none =>
                  exact hreliable.grown hplace hcoherent hkeeping hmemo hnot hunseeded (h hstep)

/-- A matcher finds what is recognized, if its own bound leaves a reserve of depth. -/
theorem Reliable.sound (h : Reliable setting view reserve) :
    ∀ inside outside, reserve + inside ≤ outside →
      Sound setting view (view.recognize inside) outside := by
  intro inside
  induction inside with
  | zero =>
      intro outside _ growing seed task place extent hnone
      cases hnone
  | succ inside ih =>
      intro outside hbound growing seed task place extent hfound
      obtain ⟨bound, rfl⟩ : ∃ less, outside = less + 1 := ⟨outside - 1, by omega⟩
      have hinner : Sound setting view (view.recognize inside) bound := ih bound (by omega)
      cases task with
      | rule name => exact hinner.rule h (by omega) hfound
      | grow name best => exact hinner.grow h.toFaithful hfound
      | choice alternatives => exact hinner.choice hfound
      | items patterns => exact hinner.items hfound
      | pattern pattern => exact hinner.pattern h.toFaithful hfound
      | repeated separator pattern => exact hinner.repeated h.toFaithful hfound
      | repeatedOnce pattern => exact hinner.repeatedOnce hfound

end

end ProviderGen.Source
