import Mathlib.Data.List.Forall2

namespace ProviderGen

variable {ε ε' α β α' β' : Type}

theorem bind_eq_ok_iff {outcome : Except ε α} {next : α → Except ε β} {value : β} :
    outcome >>= next = .ok value ↔ ∃ first, outcome = .ok first ∧ next first = .ok value := by
  cases outcome <;> simp [Bind.bind, Except.bind]

theorem bind_eq_error_iff {outcome : Except ε α} {next : α → Except ε β} {error : ε} :
    outcome >>= next = .error error ↔
      outcome = .error error ∨ ∃ first, outcome = .ok first ∧ next first = .error error := by
  cases outcome <;> simp [Bind.bind, Except.bind]

theorem exists_of_any_toOption {result : Except ε α} {accepts : α → Bool}
    (h : result.toOption.any accepts = true) :
    ∃ value, result = .ok value ∧ accepts value = true := by
  cases result with
  | error error => cases h
  | ok value => exact ⟨value, rfl, h⟩

theorem forall₂_of_mapM {f : α → Except ε β} {items : List α} {results : List β}
    (h : items.mapM f = .ok results) :
    List.Forall₂ (fun item result => f item = .ok result) items results := by
  induction items generalizing results with
  | nil =>
      obtain rfl : [] = results := by simpa [pure, Except.pure] using h
      exact .nil
  | cons first rest ih =>
      rw [List.mapM_cons, bind_eq_ok_iff] at h
      obtain ⟨result, hresult, h⟩ := h
      obtain ⟨others, hothers, h⟩ := bind_eq_ok_iff.mp h
      obtain rfl : result :: others = results := by simpa [pure, Except.pure] using h
      exact .cons hresult (ih hothers)

theorem mem_mapM_iff {f : α → Except ε β} {items : List α} {results : List β}
    (h : items.mapM f = .ok results) {value : β} :
    value ∈ results ↔ ∃ item ∈ items, f item = .ok value := by
  have hall := forall₂_of_mapM h
  clear h
  induction hall with
  | nil => simp
  | cons hfirst _ ih =>
      simp only [List.mem_cons, ih, exists_eq_or_imp, hfirst, Except.ok.injEq, @eq_comm _ value]

theorem exists_of_mapM {f : α → Except ε β} {items : List α} {results : List β}
    (h : items.mapM f = .ok results) {item : α} (hitem : item ∈ items) :
    ∃ value, f item = .ok value := by
  have hall := forall₂_of_mapM h
  clear h
  induction hall with
  | nil => cases hitem
  | cons hfirst _ ih =>
      rcases List.mem_cons.mp hitem with rfl | hitem
      · exact ⟨_, hfirst⟩
      · exact ih hitem

theorem mapM_eq_error_iff {f : α → Except ε β} {items : List α} {error : ε} :
    items.mapM f = .error error ↔ ∃ before item after, items = before ++ item :: after ∧
      (∀ other ∈ before, ∃ value, f other = .ok value) ∧ f item = .error error := by
  induction items with
  | nil => simp [pure, Except.pure]
  | cons first rest ih =>
      rw [List.mapM_cons, bind_eq_error_iff]
      constructor
      · rintro (hfirst | ⟨result, hresult, h⟩)
        · exact ⟨[], first, rest, rfl, nofun, hfirst⟩
        · rcases bind_eq_error_iff.mp h with hrest | ⟨others, -, h⟩
          · obtain ⟨before, item, after, rfl, hbefore, herror⟩ := ih.mp hrest
            exact ⟨first :: before, item, after, rfl,
              List.forall_mem_cons.mpr ⟨⟨result, hresult⟩, hbefore⟩, herror⟩
          · cases h
      · rintro ⟨before, item, after, hitems, hbefore, herror⟩
        cases before with
        | nil =>
            obtain ⟨rfl, rfl⟩ := List.cons.inj hitems
            exact .inl herror
        | cons other before =>
            obtain ⟨rfl, rfl⟩ := List.cons.inj hitems
            obtain ⟨⟨result, hresult⟩, hbefore⟩ := List.forall_mem_cons.mp hbefore
            have hrest := ih.mpr ⟨before, item, after, rfl, hbefore, herror⟩
            exact .inr ⟨result, hresult, bind_eq_error_iff.mpr (.inl hrest)⟩

theorem exists_of_mapM_error {f : α → Except ε β} {items : List α} {error : ε}
    (h : items.mapM f = .error error) : ∃ item ∈ items, f item = .error error := by
  obtain ⟨before, item, after, rfl, -, herror⟩ := mapM_eq_error_iff.mp h
  exact ⟨item, by simp, herror⟩

/-- Two outcomes agree: both are failures, or both are values that are related. -/
inductive Agree (rel : α → β → Prop) : Except ε α → Except ε β → Prop
  | ok {first : α} {second : β} (h : rel first second) : Agree rel (.ok first) (.ok second)
  | error (first second : ε) : Agree rel (.error first) (.error second)

namespace Agree

variable {rel : α → β → Prop} {rel' : α' → β' → Prop}

theorem refl {rel : α → α → Prop} (h : ∀ value, rel value value) (outcome : Except ε α) :
    Agree rel outcome outcome := by
  cases outcome with
  | error failure => exact .error failure failure
  | ok value => exact .ok (h value)

theorem trans {rel : α → α → Prop} (h : ∀ value other another, rel value other →
    rel other another → rel value another) {first second third : Except ε α}
    (hfirst : Agree rel first second) (hsecond : Agree rel second third) :
    Agree rel first third := by
  cases hfirst with
  | ok hfirst =>
      cases hsecond with
      | ok hsecond => exact .ok (h _ _ _ hfirst hsecond)
  | error failure _ =>
      cases hsecond with
      | error _ other => exact .error failure other

theorem exists_of_ok {first : Except ε α} {second : Except ε β} {value : α}
    (h : Agree rel first second) (hvalue : first = .ok value) :
    ∃ other, second = .ok other ∧ rel value other := by
  cases h with
  | ok h =>
      obtain rfl := Except.ok.inj hvalue
      exact ⟨_, rfl, h⟩
  | error failure other => cases hvalue

theorem bind_of_eq_ok {first : Except ε α} {second : Except ε β} {next : α → Except ε α'}
    {next' : β → Except ε β'} (h : Agree rel first second)
    (hnext : ∀ value other, first = .ok value → rel value other →
      Agree rel' (next value) (next' other)) :
    Agree rel' (first >>= next) (second >>= next') := by
  cases h with
  | ok h => exact hnext _ _ rfl h
  | error failure other => exact .error failure other

theorem bind {first : Except ε α} {second : Except ε β} {next : α → Except ε α'}
    {next' : β → Except ε β'} (h : Agree rel first second)
    (hnext : ∀ value other, rel value other → Agree rel' (next value) (next' other)) :
    Agree rel' (first >>= next) (second >>= next') :=
  h.bind_of_eq_ok fun value other _ => hnext value other

theorem mapError {first : Except ε α} {second : Except ε β} (h : Agree rel first second)
    (rename : ε → ε') : Agree rel (first.mapError rename) (second.mapError rename) := by
  cases h with
  | ok h => exact .ok h
  | error failure other => exact .error (rename failure) (rename other)

/-- Doing something with each of some items fails in any order or in none, and gives the same
results in another order. -/
theorem mapM_of_perm {items others : List α} (f : α → Except ε β) (h : items.Perm others) :
    Agree List.Perm (items.mapM f) (others.mapM f) := by
  induction h with
  | nil => exact .ok (List.Perm.refl _)
  | cons item _ ih =>
      rw [List.mapM_cons, List.mapM_cons]
      refine (refl (fun value => rfl) (f item)).bind ?_
      rintro result _ rfl
      refine ih.bind ?_
      intro results results' hresults
      exact .ok (hresults.cons result)
  | swap item item' items =>
      simp only [List.mapM_cons]
      cases f item with
      | error failure =>
          cases f item' with
          | error failure' => exact .error failure' failure
          | ok result' => exact .error failure failure
      | ok result =>
          cases f item' with
          | error failure' => exact .error failure' failure'
          | ok result' =>
              cases items.mapM f with
              | error failure => exact .error failure failure
              | ok results => exact .ok (List.Perm.swap result result' results)
  | trans _ _ ih ih' =>
      refine trans ?_ ih ih'
      intro results others another hresults hothers
      exact hresults.trans hothers

end Agree

end ProviderGen
