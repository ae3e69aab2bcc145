import ProviderGen.Proofs.Opening

namespace ProviderGen.Source

variable {ρ : Type}

/-- The trees that a matcher keeps are built from some tokens. -/
def Matcher.KeepsBuilt (tokens : Array Token) (matcher : Matcher ρ) : Prop :=
  ∀ kept ∈ matcher.memos, ∀ memo ∈ kept, ∀ tree ∈ memo.tree, BuiltFrom tokens tree

/-- The trees that are found and the matcher afterwards, if there are any, are as asked. -/
def Matched.Ensures (trees : List Tree → Prop) (after : Matcher ρ → Prop) : Matched ρ → Prop
  | .found matched matcher => trees matched ∧ after matcher
  | .missed matcher => after matcher
  | .missedForGood matcher => after matcher
  | .wrong _ => True
  | .exhausted => True

namespace Matcher.KeepsBuilt

variable {tokens : Array Token} {matcher : Matcher ρ}

theorem remember (h : matcher.KeepsBuilt tokens) (memo : Memo ρ)
    (htree : ∀ tree ∈ memo.tree, BuiltFrom tokens tree) (start : Nat) :
    (matcher.remember start memo).KeepsBuilt tokens := by
  intro kept hkept other hother
  obtain ⟨place, hplace, rfl⟩ := Array.mem_iff_getElem.mp hkept
  simp only [Matcher.remember, Array.getElem_modify] at hother
  split at hother
  · rcases List.mem_cons.mp hother with rfl | hother
    · exact htree
    · exact h _ (Array.getElem_mem _) other hother
  · exact h _ (Array.getElem_mem _) other hother

theorem memo? [DecidableEq ρ] (h : matcher.KeepsBuilt tokens) {rule : ρ} {memo : Memo ρ}
    (hmemo : matcher.memo? rule = some memo) : ∀ tree ∈ memo.tree, BuiltFrom tokens tree := by
  have hmem := List.mem_of_find?_eq_some hmemo
  cases hkept : matcher.memos[matcher.position]? with
  | none => simp [hkept] at hmem
  | some kept =>
      rw [hkept, Option.getD_some] at hmem
      exact h kept (Array.mem_of_getElem? hkept) memo hmem

end Matcher.KeepsBuilt

namespace Setting

variable {setting : Setting ρ} {matcher after : Matcher ρ}

theorem keepsBuilt_of_look {found : Option Token} (hbuilt : matcher.KeepsBuilt setting.tokens)
    (hlook : setting.look matcher = .ok (found, after)) :
    after.KeepsBuilt setting.tokens ∧ ∀ token ∈ found, token ∈ setting.tokens := by
  unfold look at hlook
  split at hlook
  · next token htoken =>
      obtain ⟨rfl, rfl⟩ := Prod.mk.inj (Except.ok.inj hlook)
      refine ⟨hbuilt, ?_⟩
      intro other hother
      obtain rfl := Option.mem_some_iff.mp hother
      exact Array.mem_of_getElem? htoken
  · split at hlook
    · cases hlook
    · obtain ⟨rfl, rfl⟩ := Prod.mk.inj (Except.ok.inj hlook)
      exact ⟨hbuilt, by simp⟩

theorem ensures_matchToken (setting : Setting ρ) (terminal : Terminal)
    (hbuilt : matcher.KeepsBuilt setting.tokens) :
    (setting.matchToken terminal matcher).Ensures
      (fun trees => ∃ token ∈ setting.tokens, terminal.accepts token = true ∧ trees = [.leaf token])
      (·.KeepsBuilt setting.tokens) := by
  unfold matchToken
  split
  · trivial
  · next token looked hlook =>
      obtain ⟨hlooked, hmem⟩ := keepsBuilt_of_look hbuilt hlook
      split
      · next haccepts =>
          split
          · trivial
          · exact ⟨⟨token, hmem token rfl, haccepts, rfl⟩, hlooked⟩
      · exact hlooked
  · next looked hlook => exact (keepsBuilt_of_look hbuilt hlook).1

/-- Matches what stands before a repetition, if anything has to. -/
def pass (setting : Setting ρ) (separator : Option Terminal) (matcher : Matcher ρ) : Matched ρ :=
  match separator with
  | none => .found [] matcher
  | some terminal => setting.matchToken terminal matcher

theorem ensures_pass (setting : Setting ρ) (separator : Option Terminal)
    (hbuilt : matcher.KeepsBuilt setting.tokens) :
    (setting.pass separator matcher).Ensures (fun _ => True) (·.KeepsBuilt setting.tokens) := by
  cases separator with
  | none => exact ⟨trivial, hbuilt⟩
  | some terminal =>
      have htoken := setting.ensures_matchToken terminal hbuilt
      simp only [pass]
      generalize setting.matchToken terminal matcher = result at htoken
      cases result with
      | found found after => exact ⟨trivial, htoken.2⟩
      | _ => exact htoken

theorem ensures_conclude {outcome : Outcome} {trees : List Tree}
    (hlabel : ∀ label, outcome = .node label → Begins label.opening trees)
    (htrees : AllBuilt setting.tokens trees) (start : Nat)
    (hbuilt : matcher.KeepsBuilt setting.tokens) :
    (setting.conclude outcome start trees matcher).Ensures (AllBuilt setting.tokens)
      (·.KeepsBuilt setting.tokens) := by
  cases outcome with
  | node label => exact ⟨.singleton (.node (hlabel label rfl) htrees), hbuilt⟩
  | inner index =>
      simp only [conclude]
      split
      · next tree htree => exact ⟨.singleton (htrees tree (List.mem_of_getElem? htree)), hbuilt⟩
      · exact hbuilt
  | checked index check =>
      simp only [conclude]
      split
      · next tree htree =>
          split
          · exact ⟨.singleton (htrees tree (List.mem_of_getElem? htree)), hbuilt⟩
          · trivial
      · exact hbuilt
  | strings =>
      simp only [conclude]
      split
      · exact ⟨htrees.node rfl _, hbuilt⟩
      · trivial
  | mistake judge =>
      simp only [conclude]
      split
      · exact hbuilt
      · split
        · exact hbuilt
        · trivial
        · trivial

variable [DecidableEq ρ]

/-- What the growth of a rule comes to when no longer match is found. -/
def settle (best : Option Tree) (stop : Nat) (matcher : Matcher ρ) : Matched ρ :=
  match best with
  | some tree => .found [tree] (matcher.seek stop)
  | none => .missed (matcher.seek stop)

theorem grow_eq (bound : Nat) (name : ρ) (start stop : Nat) (best : Option Tree)
    (matcher : Matcher ρ) :
    setting.grow (bound + 1) name start best stop matcher =
      match setting.matchChoice bound (setting.production name).alternatives
          ((matcher.remember start ⟨name, best, stop⟩).seek start) with
      | .found trees longer =>
          if longer.position ≤ stop then settle best stop longer
          else setting.grow bound name start trees.head? longer.position longer
      | .missed matcher => settle best stop matcher
      | .missedForGood matcher => settle best stop matcher
      | result => result := by
  simp only [grow]
  rfl

theorem repeatPattern_eq (bound : Nat) (separator : Option Terminal) (pattern : Pattern ρ)
    (trees : List Tree) (matcher : Matcher ρ) :
    setting.repeatPattern (bound + 1) separator pattern trees matcher =
      let finish := fun (after : Matcher ρ) =>
        Matched.found [.node .sequence ((trees.getLast?.map (·.line)).getD 0) trees.reverse]
          (after.seek matcher.position)
      match setting.pass separator matcher with
      | .found _ matcher =>
          match setting.matchPattern bound pattern matcher with
          | .found more matcher =>
              setting.repeatPattern bound separator pattern (more.reverse ++ trees) matcher
          | .missed matcher => finish matcher
          | .missedForGood matcher => finish matcher
          | result => result
      | .missed matcher => finish matcher
      | result => result := by
  simp only [repeatPattern]
  rfl

/-- What is found with a bound on the depth is built from the tokens. -/
structure Builds (setting : Setting ρ) (bound : Nat) : Prop where
  rule : ∀ (name : ρ) {matcher : Matcher ρ}, matcher.KeepsBuilt setting.tokens →
    (setting.matchRule bound name matcher).Ensures (AllBuilt setting.tokens)
      (·.KeepsBuilt setting.tokens)
  grow : ∀ (name : ρ) (start stop : Nat) {best : Option Tree} {matcher : Matcher ρ},
    (∀ tree ∈ best, BuiltFrom setting.tokens tree) → matcher.KeepsBuilt setting.tokens →
      (setting.grow bound name start best stop matcher).Ensures (AllBuilt setting.tokens)
        (·.KeepsBuilt setting.tokens)
  choice : ∀ {alternatives : List (Alternative ρ)} {matcher : Matcher ρ},
    Alternative.areOpened alternatives = true → matcher.KeepsBuilt setting.tokens →
      (setting.matchChoice bound alternatives matcher).Ensures (AllBuilt setting.tokens)
        (·.KeepsBuilt setting.tokens)
  items : ∀ {items : List (Pattern ρ)} (trees : List Tree) {matcher : Matcher ρ},
    Pattern.areOpened items = true → matcher.KeepsBuilt setting.tokens →
      (setting.matchItems bound items trees matcher).Ensures
        (fun found => ∃ more, found = more.reverse ++ trees ∧ AllBuilt setting.tokens more ∧
          Begins (Pattern.opening items) more)
        (·.KeepsBuilt setting.tokens)
  pattern : ∀ (pattern : Pattern ρ) {matcher : Matcher ρ},
    pattern.isOpened = true → matcher.KeepsBuilt setting.tokens →
      (setting.matchPattern bound pattern matcher).Ensures
        (fun trees => AllBuilt setting.tokens trees ∧ pattern.Yields trees)
        (·.KeepsBuilt setting.tokens)
  repeated : ∀ (separator : Option Terminal) (pattern : Pattern ρ) {trees : List Tree}
    {matcher : Matcher ρ}, pattern.isOpened = true → AllBuilt setting.tokens trees →
      matcher.KeepsBuilt setting.tokens →
        (setting.repeatPattern bound separator pattern trees matcher).Ensures
          (AllBuilt setting.tokens) (·.KeepsBuilt setting.tokens)

namespace Builds

variable {bound : Nat}

theorem zero : setting.Builds 0 := by
  constructor <;> intros <;> trivial

theorem matchItems_succ (h : setting.Builds bound) {items : List (Pattern ρ)} (trees : List Tree)
    (hopened : Pattern.areOpened items = true) (hbuilt : matcher.KeepsBuilt setting.tokens) :
    (setting.matchItems (bound + 1) items trees matcher).Ensures
      (fun found => ∃ more, found = more.reverse ++ trees ∧ AllBuilt setting.tokens more ∧
        Begins (Pattern.opening items) more)
      (·.KeepsBuilt setting.tokens) := by
  cases items with
  | nil => exact ⟨⟨[], rfl, .nil, trivial⟩, hbuilt⟩
  | cons item items =>
      rw [Pattern.areOpened, Bool.and_eq_true] at hopened
      have hitem := h.pattern item hopened.1 hbuilt
      simp only [matchItems]
      generalize setting.matchPattern bound item matcher = result at hitem
      cases result with
      | found first after =>
          obtain ⟨⟨hfirst, hyields⟩, hafter⟩ := hitem
          have hitems := h.items (first.reverse ++ trees) hopened.2 hafter
          simp only
          generalize setting.matchItems bound items _ after = result at hitems
          cases result with
          | found found last =>
              obtain ⟨⟨more, rfl, hmore, hbegins⟩, hlast⟩ := hitems
              exact ⟨⟨first ++ more, by simp, hfirst.append hmore, hyields.begins_append hbegins⟩,
                hlast⟩
          | _ => exact hitems
      | _ => exact hitem

theorem matchChoice_succ (h : setting.Builds bound) {alternatives : List (Alternative ρ)}
    (hopened : Alternative.areOpened alternatives = true)
    (hbuilt : matcher.KeepsBuilt setting.tokens) :
    (setting.matchChoice (bound + 1) alternatives matcher).Ensures (AllBuilt setting.tokens)
      (·.KeepsBuilt setting.tokens) := by
  match alternatives with
  | [] => exact hbuilt
  | .mk diagnostic items committed outcome :: others =>
      simp only [Alternative.areOpened, Alternative.isOpened, Bool.and_eq_true] at hopened
      obtain ⟨⟨⟨hitems, hcommitted⟩, hlabel⟩, hothers⟩ := hopened
      simp only [matchChoice]
      split
      · exact h.choice hothers hbuilt
      have hfirst := h.items [] hitems hbuilt
      generalize setting.matchItems bound items [] matcher = result at hfirst
      cases result with
      | found found middle =>
          obtain ⟨⟨parts, rfl, hparts, hbegins⟩, hmiddle⟩ := hfirst
          have hsecond := h.items (parts.reverse ++ []) hcommitted hmiddle
          simp only
          generalize setting.matchItems bound committed _ middle = result at hsecond
          cases result with
          | found found last =>
              obtain ⟨⟨more, rfl, hmore, -⟩, hlast⟩ := hsecond
              have htrees : (more.reverse ++ (parts.reverse ++ [])).reverse = parts ++ more := by
                simp
              simp only [htrees]
              refine ensures_conclude ?_ (hparts.append hmore) _ hlast
              rintro label rfl
              exact (hbegins.of_prefix (List.isPrefixOf_iff_prefix.mp hlabel)).append more
          | _ => exact hsecond
      | missed after => exact h.choice hothers hfirst
      | _ => exact hfirst

theorem repeatPattern_succ (h : setting.Builds bound) (separator : Option Terminal)
    {pattern : Pattern ρ} {trees : List Tree} (hopened : pattern.isOpened = true)
    (htrees : AllBuilt setting.tokens trees) (hbuilt : matcher.KeepsBuilt setting.tokens) :
    (setting.repeatPattern (bound + 1) separator pattern trees matcher).Ensures
      (AllBuilt setting.tokens) (·.KeepsBuilt setting.tokens) := by
  have hfinish : ∀ line, AllBuilt setting.tokens [.node .sequence line trees.reverse] :=
    htrees.reverse.node rfl
  have hpass := setting.ensures_pass separator hbuilt
  rw [repeatPattern_eq]
  generalize setting.pass separator matcher = result at hpass
  cases result with
  | found found next =>
      have hpattern := h.pattern pattern hopened hpass.2
      simp only
      generalize setting.matchPattern bound pattern next = result at hpattern
      cases result with
      | found more after =>
          exact h.repeated separator pattern hopened (hpattern.1.1.reverse.append htrees) hpattern.2
      | missed after => exact ⟨hfinish _, hpattern⟩
      | missedForGood after => exact ⟨hfinish _, hpattern⟩
      | _ => trivial
  | missed after => exact ⟨hfinish _, hpass⟩
  | missedForGood after => exact hpass
  | _ => trivial

theorem matchPattern_succ (h : setting.Builds bound) {pattern : Pattern ρ}
    (hopened : pattern.isOpened = true) (hbuilt : matcher.KeepsBuilt setting.tokens) :
    (setting.matchPattern (bound + 1) pattern matcher).Ensures
      (fun trees => AllBuilt setting.tokens trees ∧ pattern.Yields trees)
      (·.KeepsBuilt setting.tokens) := by
  -- Only what is found for a terminal has to be a token that it asks for.
  have hother : ∀ {result : Matched ρ}, (∀ terminal, pattern ≠ .token terminal) →
      result.Ensures (AllBuilt setting.tokens) (·.KeepsBuilt setting.tokens) →
        result.Ensures (fun trees => AllBuilt setting.tokens trees ∧ pattern.Yields trees)
          (·.KeepsBuilt setting.tokens) := by
    intro result hne hresult
    cases result with
    | found trees after =>
        exact ⟨⟨hresult.1, fun terminal heq => absurd heq (hne terminal)⟩, hresult.2⟩
    | _ => exact hresult
  cases pattern with
  | token terminal =>
      have htoken := setting.ensures_matchToken terminal hbuilt
      simp only [matchPattern]
      generalize setting.matchToken terminal matcher = result at htoken
      cases result with
      | found trees after =>
          obtain ⟨⟨token, hmem, haccepts, rfl⟩, hafter⟩ := htoken
          refine ⟨⟨.singleton (.leaf hmem), ?_⟩, hafter⟩
          rintro _ ⟨rfl⟩
          exact ⟨token, haccepts, rfl⟩
      | _ => exact htoken
  | forced terminal =>
      refine hother (by simp) ?_
      have htoken := setting.ensures_matchToken terminal hbuilt
      simp only [matchPattern]
      generalize setting.matchToken terminal matcher = result at htoken
      cases result with
      | found trees after =>
          obtain ⟨⟨token, hmem, -, rfl⟩, hafter⟩ := htoken
          exact ⟨.singleton (.leaf hmem), hafter⟩
      | missed after => trivial
      | _ => exact htoken
  | rule name => exact hother (by simp) (h.rule name hbuilt)
  | choice alternatives => exact hother (by simp) (h.choice hopened hbuilt)
  | many pattern => exact hother (by simp) (h.repeated none pattern hopened .nil hbuilt)
  | many1 pattern =>
      refine hother (by simp) ?_
      have hrepeated := h.repeated none pattern hopened .nil hbuilt
      simp only [matchPattern]
      split
      · next heq =>
          rw [heq] at hrepeated
          exact hrepeated.2
      · exact hrepeated
  | optional pattern =>
      refine hother (by simp) ?_
      have hpattern := h.pattern pattern hopened hbuilt
      simp only [matchPattern]
      generalize setting.matchPattern bound pattern matcher = result at hpattern
      cases result with
      | found trees after => exact ⟨hpattern.1.1.node rfl _, hpattern.2⟩
      | missed after => exact ⟨AllBuilt.nil.node rfl _, hpattern⟩
      | missedForGood after => exact ⟨AllBuilt.nil.node rfl _, hpattern⟩
      | _ => trivial
  | separated separator pattern =>
      refine hother (by simp) ?_
      have hpattern := h.pattern pattern hopened hbuilt
      simp only [matchPattern]
      generalize setting.matchPattern bound pattern matcher = result at hpattern
      cases result with
      | found trees after => exact h.repeated _ pattern hopened hpattern.1.1.reverse hpattern.2
      | _ => exact hpattern
  | ahead pattern =>
      refine hother (by simp) ?_
      have hpattern := h.pattern pattern hopened hbuilt
      simp only [matchPattern]
      generalize setting.matchPattern bound pattern matcher = result at hpattern
      cases result with
      | found trees after => exact ⟨.nil, hpattern.2⟩
      | _ => exact hpattern
  | notAhead pattern =>
      refine hother (by simp) ?_
      have hpattern := h.pattern pattern hopened hbuilt
      simp only [matchPattern]
      generalize setting.matchPattern bound pattern matcher = result at hpattern
      cases result with
      | found trees after => exact hpattern.2
      | missed after => exact ⟨.nil, hpattern⟩
      | missedForGood after => exact ⟨.nil, hpattern⟩
      | _ => trivial

theorem grow_succ (h : setting.Builds bound)
    (hgrammar : ∀ rule, Alternative.areOpened (setting.production rule).alternatives = true)
    (name : ρ) (start stop : Nat) {best : Option Tree}
    (hbest : ∀ tree ∈ best, BuiltFrom setting.tokens tree)
    (hbuilt : matcher.KeepsBuilt setting.tokens) :
    (setting.grow (bound + 1) name start best stop matcher).Ensures (AllBuilt setting.tokens)
      (·.KeepsBuilt setting.tokens) := by
  have hsettle : ∀ {after : Matcher ρ}, after.KeepsBuilt setting.tokens →
      (settle best stop after).Ensures (AllBuilt setting.tokens)
        (·.KeepsBuilt setting.tokens) := by
    intro after hafter
    cases best with
    | some tree => exact ⟨.singleton (hbest tree rfl), hafter⟩
    | none => exact hafter
  have hseek : ((matcher.remember start ⟨name, best, stop⟩).seek start).KeepsBuilt
      setting.tokens := hbuilt.remember ⟨name, best, stop⟩ hbest start
  have hchoice := h.choice (hgrammar name) hseek
  rw [grow_eq]
  generalize setting.matchChoice bound _ _ = result at hchoice
  cases result with
  | found trees longer =>
      simp only
      split
      · exact hsettle hchoice.2
      · exact h.grow name start _ (fun tree htree => hchoice.1 tree (List.mem_of_mem_head? htree))
          hchoice.2
  | missed after => exact hsettle hchoice
  | missedForGood after => exact hsettle hchoice
  | _ => trivial

theorem matchRule_succ (h : setting.Builds bound)
    (hgrammar : ∀ rule, Alternative.areOpened (setting.production rule).alternatives = true)
    (name : ρ) (hbuilt : matcher.KeepsBuilt setting.tokens) :
    (setting.matchRule (bound + 1) name matcher).Ensures (AllBuilt setting.tokens)
      (·.KeepsBuilt setting.tokens) := by
  simp only [matchRule]
  split
  · -- Whether mistakes are looked for changes nothing about what is kept.
    have hquiet : Matcher.KeepsBuilt setting.tokens { matcher with
        diagnosing := matcher.diagnosing && !(setting.production name).silent } := hbuilt
    have hchoice := h.choice (hgrammar name) hquiet
    generalize setting.matchChoice bound _ _ = result at hchoice
    cases result with
    | _ => exact hchoice
  · split
    · trivial
    next looked hlook =>
    have hlooked := (keepsBuilt_of_look hbuilt hlook).1
    split
    · next memo hmemo =>
        split
        · next tree htree => exact ⟨.singleton (hlooked.memo? hmemo tree htree), hlooked⟩
        · exact hlooked
    split
    · exact h.grow name _ _ (by simp) hlooked
    have hchoice := h.choice (hgrammar name) hlooked
    generalize setting.matchChoice bound _ _ = result at hchoice
    have hnone : ∀ tree ∈ (none : Option Tree), BuiltFrom setting.tokens tree := by simp
    cases result with
    | found trees after =>
        exact ⟨hchoice.1, hchoice.2.remember _
          (fun tree htree => hchoice.1 tree (List.mem_of_mem_head? htree)) _⟩
    | missed after => exact hchoice.remember _ hnone _
    | missedForGood after => exact hchoice.remember _ hnone _
    | _ => trivial

theorem succ (h : setting.Builds bound)
    (hgrammar : ∀ rule, Alternative.areOpened (setting.production rule).alternatives = true) :
    setting.Builds (bound + 1) where
  rule name _ hbuilt := h.matchRule_succ hgrammar name hbuilt
  grow name start stop _ _ hbest hbuilt := h.grow_succ hgrammar name start stop hbest hbuilt
  choice hopened hbuilt := h.matchChoice_succ hopened hbuilt
  items trees _ hopened hbuilt := h.matchItems_succ trees hopened hbuilt
  pattern _ _ hopened hbuilt := h.matchPattern_succ hopened hbuilt
  repeated separator _ _ _ hopened htrees hbuilt :=
    h.repeatPattern_succ separator hopened htrees hbuilt

end Builds

/-- What is found is built from the tokens if the grammar asks for what its nodes begin with. -/
theorem builds
    (hgrammar : ∀ rule, Alternative.areOpened (setting.production rule).alternatives = true) :
    ∀ bound, setting.Builds bound := by
  intro bound
  induction bound with
  | zero => exact .zero
  | succ bound ih => exact ih.succ hgrammar

end Setting

end ProviderGen.Source
