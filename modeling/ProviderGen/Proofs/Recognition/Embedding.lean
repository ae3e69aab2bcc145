import ProviderGen.Proofs.Recognition.View
import Mathlib.Order.Monotone.Basic

/-!
What is recognized in a view is recognized wherever the view is found in a wider one, which may know
less of rules and more of tokens.
-/

namespace ProviderGen.Source

variable {ρ : Type}

/-- An extent seen from a wider view. -/
def Extent.move (φ : Nat → Nat) : Extent → Extent
  | upTo stop => upTo (φ stop)
  | extent => extent

/-- A seed seen from a wider view. -/
def Seed.move (φ : Nat → Nat) (seed : Seed ρ) : Seed ρ :=
  ⟨seed.rule, φ seed.place, seed.stop.map φ⟩

/-- A task seen from a wider view. -/
def Task.move (φ : Nat → Nat) : Task ρ → Task ρ
  | grow name best => grow name (best.map φ)
  | task => task

@[simp]
theorem Extent.move_upTo {φ : Nat → Nat} {stop : Nat} :
    (Extent.upTo stop).move φ = .upTo (φ stop) := rfl

@[simp]
theorem Extent.move_refused {φ : Nat → Nat} : Extent.refused.move φ = .refused := rfl

@[simp]
theorem Extent.move_refusedForGood {φ : Nat → Nat} :
    Extent.refusedForGood.move φ = .refusedForGood := rfl

@[simp]
theorem Extent.move_wrong {φ : Nat → Nat} : Extent.wrong.move φ = .wrong := rfl

@[simp]
theorem Extent.move_ofStop {φ : Nat → Nat} {stop : Option Nat} :
    (Extent.ofStop stop).move φ = .ofStop (stop.map φ) := by
  cases stop <;> rfl

theorem Extent.move_settled {φ : Nat → Nat} {extent : Extent} :
    extent.settled.move φ = (extent.move φ).settled := by
  cases extent <;> rfl

@[simp]
theorem Extent.move_id {extent : Extent} : extent.move id = extent := by
  cases extent <;> rfl

variable [DecidableEq ρ]

theorem Known.holdsAmid_iff {known : Known ρ} {growing : List (ρ × Nat)} {place : Nat} :
    known.holdsAmid growing place = true ↔
      ∀ rules ∈ known.amid, ∀ grown ∈ growing,
        grown.2 < place ∨ grown.2 = place ∧ grown.1 ∈ rules := by
  unfold holdsAmid
  cases known.amid with
  | none => simp
  | some rules => simp

/-- All rules that grow in a wider view grow in the view, or before the view begins. -/
def Covers (φ : Nat → Nat) (growing wide : List (ρ × Nat)) : Prop :=
  ∀ grown ∈ wide, (∃ inner ∈ growing, (inner.1, φ inner.2) = grown) ∨ grown.2 < φ 0

/-- What one recognizer finds, the other one finds in a wider view. -/
def Transfers (φ : Nat → Nat) (inner outer : View.Recognizer ρ) : Prop :=
  ∀ {growing wide seed task place extent}, Covers φ growing wide →
    inner growing seed task place = some extent →
      outer wide (seed.map (·.move φ)) (task.move φ) (φ place) = some (extent.move φ)

/-- A view is found in a wider one. What it knows of rules is recognized there, within the given
bound on the depth. -/
structure View.Embeds (view wide : View ρ) (φ : Nat → Nat) (reserve : Nat) : Prop where
  strictMono : StrictMono φ
  production : wide.production = view.production
  isSealed : wide.isSealed = view.isSealed
  answer : ∀ {place terminal accepts}, view.answer place terminal = some accepts →
    wide.answer (φ place) terminal = some accepts
  next : ∀ {place terminal}, view.answer place terminal = some true → φ (place + 1) = φ place + 1
  known : ∀ {name place known}, view.known name place = some known →
    ∀ bound growing, reserve ≤ bound → growing.contains (name, φ place) = false →
      known.holdsAmid growing (φ place) →
        wide.recognize (bound + 1) growing none (.rule name) (φ place) =
          some (known.extent.move φ)
  opened : ∀ {name place}, view.known name place = none → view.isSealed name = false →
    wide.known name (φ place) = none

section

variable {φ : Nat → Nat}

omit [DecidableEq ρ] in
theorem Covers.cons {growing wide : List (ρ × Nat)} (h : Covers φ growing wide) (name : ρ)
    (place : Nat) : Covers φ ((name, place) :: growing) ((name, φ place) :: wide) := by
  intro grown hgrown
  rcases List.mem_cons.mp hgrown with rfl | hgrown
  · exact .inl ⟨(name, place), by simp, rfl⟩
  · rcases h grown hgrown with ⟨inner, hinner, rfl⟩ | hbefore
    · exact .inl ⟨inner, by simp [hinner], rfl⟩
    · exact .inr hbefore

theorem Covers.contains_eq_false {growing wide : List (ρ × Nat)} (h : Covers φ growing wide)
    (hφ : StrictMono φ) {name : ρ} {place : Nat} (hnot : growing.contains (name, place) = false) :
    wide.contains (name, φ place) = false := by
  simp only [List.contains_eq_mem, decide_eq_false_iff_not] at hnot ⊢
  intro hmem
  rcases h _ hmem with ⟨⟨other, start⟩, hinner, heq⟩ | hbefore
  · simp only [Prod.mk.injEq] at heq
    obtain ⟨rfl, hstart⟩ := heq
    rw [hφ.injective hstart] at hinner
    exact hnot hinner
  · have := hφ.monotone (Nat.zero_le place)
    omega

theorem Covers.holdsAmid {growing wide : List (ρ × Nat)} (h : Covers φ growing wide)
    (hφ : StrictMono φ) {known : Known ρ} {place : Nat} (hknown : known.holdsAmid growing place) :
    known.holdsAmid wide (φ place) := by
  rw [Known.holdsAmid_iff] at hknown ⊢
  intro rules hrules grown hgrown
  rcases h grown hgrown with ⟨inner, hinner, rfl⟩ | hbefore
  · rcases hknown rules hrules inner hinner with hlt | ⟨heq, hmem⟩
    · exact .inl (hφ hlt)
    · exact .inr ⟨congrArg φ heq, hmem⟩
  · have := hφ.monotone (Nat.zero_le place)
    exact .inl (by omega)

theorem Seed.at?_move (hφ : StrictMono φ) (seed : Option (Seed ρ)) (name : ρ) (place : Nat) :
    Seed.at? (seed.map (·.move φ)) name (φ place) =
      (Seed.at? seed name place).map (·.move φ) := by
  cases seed with
  | none => rfl
  | some seed =>
      simp only [at?, Option.map_some, Option.bind_some, Seed.move, hφ.injective.eq_iff]
      split <;> simp

end

namespace View

variable {view wide : View ρ} {φ : Nat → Nat} {reserve : Nat} {inner outer : Recognizer ρ}
variable {growing wider : List (ρ × Nat)} {seed : Option (Seed ρ)} {place : Nat} {extent : Extent}

theorem rule_of_unseeded {recur : Recognizer ρ} {name : ρ} (h : Seed.at? seed name place = none) :
    view.rule recur growing seed name place = view.rule recur growing none name place := by
  simp only [rule, h]
  rfl

theorem Embeds.rule (h : view.Embeds wide φ reserve) {bound : Nat} (hbound : reserve ≤ bound)
    (hrecur : Transfers φ inner (wide.recognize bound)) (hcovers : Covers φ growing wider)
    {name : ρ} (hrule : view.rule inner growing seed name place = some extent) :
    wide.rule (wide.recognize bound) wider (seed.map (·.move φ)) name (φ place) =
      some (extent.move φ) := by
  have hat := Seed.at?_move h.strictMono seed name place
  cases hseed : Seed.at? seed name place with
  | some seeded =>
      obtain rfl : seeded = extent := by simpa [View.rule, hseed] using hrule
      simp [View.rule, hat, hseed]
  | none =>
      rw [hseed] at hat
      rw [rule_of_unseeded hat]
      rw [rule_of_unseeded hseed] at hrule
      simp only [View.rule, Seed.at?, Option.bind_none] at hrule ⊢
      split at hrule
      · cases hrule
      next hnot =>
      rw [Bool.not_eq_true] at hnot
      have hnot' := hcovers.contains_eq_false h.strictMono hnot
      cases hknown : view.known name place with
      | some known =>
          simp only [hknown] at hrule
          split at hrule
          · next hholds =>
              obtain rfl : known.extent = extent := by simpa using hrule
              have hwide := h.known hknown _ _ hbound hnot'
                (hcovers.holdsAmid h.strictMono hholds)
              exact hwide
          · cases hrule
      | none =>
          simp only [hknown] at hrule
          split at hrule
          · cases hrule
          · next hopen =>
              rw [Bool.not_eq_true] at hopen
              rw [h.opened hknown hopen]
              simp only [h.isSealed, h.production, hopen, hnot', Bool.false_eq_true, if_false]
              split
              · next hkeeping =>
                  rw [if_pos hkeeping] at hrule
                  exact hrecur (hcovers.cons name place) hrule
              · next hkeeping =>
                  rw [if_neg hkeeping] at hrule
                  obtain ⟨found, hfound, rfl⟩ := Option.map_eq_some_iff.mp hrule
                  have hwide := hrecur hcovers hfound
                  simp only [Option.map_none, Task.move] at hwide
                  rw [hwide, Extent.move_settled]
                  rfl

theorem Embeds.grow (h : view.Embeds wide φ reserve) (hrecur : Transfers φ inner outer)
    (hcovers : Covers φ growing wider) {name : ρ} {best : Option Nat}
    (hgrow : view.grow inner growing seed name best place = some extent) :
    wide.grow outer wider (seed.map (·.move φ)) name (best.map φ) (φ place) =
      some (extent.move φ) := by
  simp only [View.grow] at hgrow ⊢
  cases hfound : inner growing (some ⟨name, place, best⟩)
      (.choice (view.production name).alternatives) place with
  | none => simp [hfound] at hgrow
  | some found =>
      have hwide := hrecur hcovers hfound
      simp only [Option.map_some, Seed.move, Task.move] at hwide
      rw [h.production, hwide]
      rw [hfound] at hgrow
      cases found with
      | upTo stop =>
          have hgetD : (best.map φ).getD (φ place) = φ (best.getD place) := by cases best <;> rfl
          simp only [Extent.move_upTo, hgetD, h.strictMono.le_iff_le] at hgrow ⊢
          split
          · next hle =>
              rw [if_pos hle] at hgrow
              obtain rfl : Extent.ofStop best = extent := by simpa using hgrow
              simp
          · next hlt =>
              rw [if_neg hlt] at hgrow
              exact hrecur hcovers hgrow
      | refused =>
          obtain rfl : Extent.ofStop best = extent := by simpa using hgrow
          simp
      | refusedForGood =>
          obtain rfl : Extent.ofStop best = extent := by simpa using hgrow
          simp
      | wrong =>
          obtain rfl : Extent.wrong = extent := by simpa using hgrow
          simp

theorem conclude_move {outcome : Outcome} {width stop : Nat}
    (h : conclude outcome width stop = some extent) :
    conclude outcome width (φ stop) = some (extent.move φ) := by
  unfold conclude at h ⊢
  split at h
  · obtain rfl : Extent.upTo stop = extent := by simpa using h
    rfl
  · obtain rfl := Option.some.inj h
    split <;> rfl
  · cases h

omit [DecidableEq ρ] in
theorem choice_transfer (hrecur : Transfers φ inner outer) (hcovers : Covers φ growing wider)
    {alternatives : List (Alternative ρ)}
    (hchoice : choice inner growing seed alternatives place = some extent) :
    choice outer wider (seed.map (·.move φ)) alternatives (φ place) = some (extent.move φ) := by
  cases alternatives with
  | nil =>
      obtain rfl : Extent.refused = extent := by simpa [choice] using hchoice
      rfl
  | cons first others =>
      obtain ⟨diagnostic, patterns, committed, outcome⟩ := first
      simp only [choice] at hchoice ⊢
      split
      · next hdiagnostic =>
          rw [if_pos hdiagnostic] at hchoice
          exact hrecur hcovers hchoice
      · next hdiagnostic =>
          rw [if_neg hdiagnostic] at hchoice
          cases hitems : inner growing seed (.items patterns) place with
          | none => simp [hitems] at hchoice
          | some matched =>
              rw [hitems] at hchoice
              have hwide : outer wider _ (.items patterns) _ = _ := hrecur hcovers hitems
              rw [hwide]
              cases matched with
              | upTo middle =>
                  simp only [Extent.move_upTo] at hchoice ⊢
                  cases hrest : inner growing seed (.items committed) middle with
                  | none => simp [hrest] at hchoice
                  | some rest =>
                      rw [hrest] at hchoice
                      have hwide : outer wider _ (.items committed) _ = _ := hrecur hcovers hrest
                      rw [hwide]
                      cases rest with
                      | upTo stop => exact conclude_move hchoice
                      | _ =>
                          obtain rfl := Option.some.inj hchoice
                          rfl
              | refused => exact hrecur hcovers hchoice
              | _ =>
                  obtain rfl := Option.some.inj hchoice
                  rfl

omit [DecidableEq ρ] in
theorem items_transfer (hrecur : Transfers φ inner outer) (hcovers : Covers φ growing wider)
    {patterns : List (Pattern ρ)}
    (hitems : items inner growing seed patterns place = some extent) :
    items outer wider (seed.map (·.move φ)) patterns (φ place) = some (extent.move φ) := by
  cases patterns with
  | nil =>
      obtain rfl : Extent.upTo place = extent := by simpa [items] using hitems
      rfl
  | cons first rest =>
      simp only [items] at hitems ⊢
      cases hfirst : inner growing seed (.pattern first) place with
      | none => simp [hfirst] at hitems
      | some matched =>
          rw [hfirst] at hitems
          have hwide : outer wider _ (.pattern first) _ = _ := hrecur hcovers hfirst
          rw [hwide]
          cases matched with
          | upTo stop => exact hrecur hcovers hitems
          | _ =>
              obtain rfl := Option.some.inj hitems
              rfl

theorem Embeds.token (h : view.Embeds wide φ reserve) {terminal : Terminal}
    (htoken : view.token terminal place = some extent) :
    wide.token terminal (φ place) = some (extent.move φ) := by
  obtain ⟨accepts, hanswer, rfl⟩ := Option.map_eq_some_iff.mp htoken
  simp only [View.token, h.answer hanswer, Option.map_some]
  cases accepts with
  | true => simp [h.next hanswer]
  | false => rfl

theorem Embeds.pattern (h : view.Embeds wide φ reserve) (hrecur : Transfers φ inner outer)
    (hcovers : Covers φ growing wider) {pattern : Pattern ρ}
    (hpattern : view.pattern inner growing seed pattern place = some extent) :
    wide.pattern outer wider (seed.map (·.move φ)) pattern (φ place) =
      some (extent.move φ) := by
  cases pattern with
  | token terminal => exact h.token hpattern
  | forced terminal =>
      simp only [View.pattern] at hpattern ⊢
      cases htoken : view.token terminal place with
      | none => simp [htoken] at hpattern
      | some found =>
          rw [htoken] at hpattern
          rw [h.token htoken]
          cases found with
          | refused =>
              obtain rfl := Option.some.inj hpattern
              rfl
          | _ =>
              obtain rfl := Option.some.inj hpattern
              rfl
  | rule name => exact hrecur hcovers hpattern
  | choice alternatives => exact hrecur hcovers hpattern
  | many pattern => exact hrecur hcovers hpattern
  | many1 pattern => exact hrecur hcovers hpattern
  | optional part =>
      simp only [View.pattern] at hpattern ⊢
      cases hpart : inner growing seed (.pattern part) place with
      | none => simp [hpart] at hpattern
      | some found =>
          rw [hpart] at hpattern
          have hwide : outer wider _ (.pattern part) _ = _ := hrecur hcovers hpart
          rw [hwide]
          cases found <;> (obtain rfl := Option.some.inj hpattern; rfl)
  | separated separator part =>
      simp only [View.pattern] at hpattern ⊢
      cases hpart : inner growing seed (.pattern part) place with
      | none => simp [hpart] at hpattern
      | some found =>
          rw [hpart] at hpattern
          have hwide : outer wider _ (.pattern part) _ = _ := hrecur hcovers hpart
          rw [hwide]
          cases found with
          | upTo stop => exact hrecur hcovers hpattern
          | _ =>
              obtain rfl := Option.some.inj hpattern
              rfl
  | ahead part =>
      simp only [View.pattern] at hpattern ⊢
      cases hpart : inner growing seed (.pattern part) place with
      | none => simp [hpart] at hpattern
      | some found =>
          rw [hpart] at hpattern
          have hwide : outer wider _ (.pattern part) _ = _ := hrecur hcovers hpart
          rw [hwide]
          cases found <;> (obtain rfl := Option.some.inj hpattern; rfl)
  | notAhead part =>
      simp only [View.pattern] at hpattern ⊢
      cases hpart : inner growing seed (.pattern part) place with
      | none => simp [hpart] at hpattern
      | some found =>
          rw [hpart] at hpattern
          have hwide : outer wider _ (.pattern part) _ = _ := hrecur hcovers hpart
          rw [hwide]
          cases found <;> (obtain rfl := Option.some.inj hpattern; rfl)

theorem Embeds.separated (h : view.Embeds wide φ reserve) {separator : Option Terminal}
    (hseparated : view.separated separator place = some extent) :
    wide.separated separator (φ place) = some (extent.move φ) := by
  cases separator with
  | none =>
      obtain rfl := Option.some.inj hseparated
      rfl
  | some terminal => exact h.token hseparated

theorem Embeds.repeated (h : view.Embeds wide φ reserve) (hrecur : Transfers φ inner outer)
    (hcovers : Covers φ growing wider) {separator : Option Terminal} {pattern : Pattern ρ}
    (hrepeated : view.repeated inner growing seed separator pattern place = some extent) :
    wide.repeated outer wider (seed.map (·.move φ)) separator pattern (φ place) =
      some (extent.move φ) := by
  simp only [View.repeated] at hrepeated ⊢
  cases hseparated : view.separated separator place with
  | none => simp [hseparated] at hrepeated
  | some found =>
      rw [hseparated] at hrepeated
      rw [h.separated hseparated]
      cases found with
      | upTo next =>
          simp only [Extent.move_upTo] at hrepeated ⊢
          cases hpart : inner growing seed (.pattern pattern) next with
          | none => simp [hpart] at hrepeated
          | some matched =>
              rw [hpart] at hrepeated
              have hwide : outer wider _ (.pattern pattern) _ = _ := hrecur hcovers hpart
              rw [hwide]
              cases matched with
              | upTo stop => exact hrecur hcovers hrepeated
              | _ =>
                  obtain rfl := Option.some.inj hrepeated
                  rfl
      | _ =>
          obtain rfl := Option.some.inj hrepeated
          rfl

omit [DecidableEq ρ] in
theorem repeatedOnce_transfer (hrecur : Transfers φ inner outer)
    (hcovers : Covers φ growing wider) {pattern : Pattern ρ}
    (hrepeated : repeatedOnce inner growing seed pattern place = some extent) :
    repeatedOnce outer wider (seed.map (·.move φ)) pattern (φ place) = some (extent.move φ) := by
  simp only [repeatedOnce] at hrepeated ⊢
  split
  · next hwidth =>
      rw [if_pos hwidth] at hrepeated
      cases hrepeated
  · next hwidth =>
      rw [if_neg hwidth] at hrepeated
      cases hpart : inner growing seed (.pattern pattern) place with
      | none => simp [hpart] at hrepeated
      | some found =>
          rw [hpart] at hrepeated
          have hwide : outer wider _ (.pattern pattern) _ = _ := hrecur hcovers hpart
          rw [hwide]
          cases found with
          | upTo stop => exact hrecur hcovers hrepeated
          | _ =>
              obtain rfl := Option.some.inj hrepeated
              rfl

/-- What is recognized in a view is recognized in the wider one, with a reserve of depth for what
the view knows of rules. -/
theorem Embeds.transfers (h : view.Embeds wide φ reserve) :
    ∀ inside outside, reserve + inside ≤ outside →
      Transfers φ (view.recognize inside) (wide.recognize outside) := by
  intro inside
  induction inside with
  | zero =>
      intro outside _ growing wider seed task place extent _ hnone
      cases hnone
  | succ inside ih =>
      intro outside hbound growing wider seed task place extent hcovers hinner
      obtain ⟨outside, rfl⟩ : ∃ less, outside = less + 1 := ⟨outside - 1, by omega⟩
      have hrecur : Transfers φ (view.recognize inside) (wide.recognize outside) :=
        ih outside (by omega)
      cases task with
      | rule name => exact h.rule (by omega) hrecur hcovers hinner
      | grow name best => exact h.grow hrecur hcovers hinner
      | choice alternatives => exact choice_transfer hrecur hcovers hinner
      | items patterns => exact items_transfer hrecur hcovers hinner
      | pattern pattern => exact h.pattern hrecur hcovers hinner
      | repeated separator pattern => exact h.repeated hrecur hcovers hinner
      | repeatedOnce pattern => exact repeatedOnce_transfer hrecur hcovers hinner

theorem embeds_self (view : View ρ) : view.Embeds view id 0 where
  strictMono := strictMono_id
  production := rfl
  isSealed := rfl
  answer := id
  next _ := rfl
  known := by
    intro name place known hknown bound growing _ hnot hholds
    have hrule : view.rule (view.recognize bound) growing none name place =
        some known.extent := by
      simp only [View.rule, Seed.at?, Option.bind_none, hknown]
      rw [if_neg (by simpa using hnot)]
      exact if_pos hholds
    rw [Extent.move_id]
    exact hrule
  opened hknown _ := hknown

/-- A wider bound, and fewer rules that grow, change nothing about what is recognized. -/
theorem recognize_mono {growing fewer : List (ρ × Nat)} {task : Task ρ} {bound wider : Nat}
    (h : view.recognize bound growing seed task place = some extent) (hbound : bound ≤ wider)
    (hfewer : fewer ⊆ growing) :
    view.recognize wider fewer seed task place = some extent := by
  have hcovers : Covers id growing fewer := by
    intro grown hgrown
    exact .inl ⟨grown, hfewer hgrown, rfl⟩
  have hwide := view.embeds_self.transfers bound wider (by omega) hcovers h
  have hseed : seed.map (·.move id) = seed := by
    rcases seed with _ | ⟨rule, start, _ | stop⟩ <;> rfl
  have htask : task.move id = task := by
    rcases task with _ | ⟨name, _ | best⟩ | _ | _ | _ | _ | _ <;> rfl
  simpa [hseed, htask] using hwide

theorem recognize_unique {growing others : List (ρ × Nat)} {name : ρ} {bound other : Nat}
    {found : Extent} (h : view.recognize bound growing none (.rule name) place = some extent)
    (hother : view.recognize other others none (.rule name) place = some found) :
    extent = found := by
  have hmost := recognize_mono h (Nat.le_max_left bound other) (List.nil_subset growing)
  have hothers := recognize_mono hother (Nat.le_max_right bound other) (List.nil_subset others)
  rw [hmost] at hothers
  exact Option.some.inj hothers

end View

end ProviderGen.Source
