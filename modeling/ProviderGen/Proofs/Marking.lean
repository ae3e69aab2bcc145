import ProviderGen.Analysis
import ProviderGen.Proofs.Mention

namespace ProviderGen.Detection

open Source

/-- A name does not begin with an underscore. -/
def Public (name : String) : Prop := ¬ ['_'] <+: name.toList

/-- A method can have a role by its name and its decorators: those that make a factory tell methods
that build an instance from methods of an instance. -/
def Fits (role : Role) (method : String) (decorators : List (Option String)) : Prop :=
  Public method ∧
    (role = .deserialize ↔ some "classmethod" ∈ decorators ∨ some "staticmethod" ∈ decorators)

/-- A class body holds a method that can have a role. -/
def Offers (role : Role) (body : List Statement) (method : String) : Prop :=
  ∃ decorators, .functionDef method decorators ∈ body ∧ Fits role method decorators

/-- A class body holds a method that can have a role and that a keyword marks. -/
def Eligible (keywords : List Keyword) (role : Role) (body : List Statement) (method : String) :
    Prop :=
  Offers role body method ∧ ∃ keyword ∈ keywords, keyword.text.toList <:+: method.toList

/-- The method that is chosen for a role: the first one in the body that the first possible keyword
marks. -/
def Chosen (keywords : List Keyword) (role : Role) (body : List Statement) (method : String) :
    Prop :=
  ∃ earlier keyword later, keywords = earlier ++ keyword :: later ∧
    (∀ other ∈ earlier, ∀ candidate, Offers role body candidate →
      ¬ other.text.toList <:+: candidate.toList) ∧
    ∃ before decorators after, body = before ++ .functionDef method decorators :: after ∧
      Fits role method decorators ∧ keyword.text.toList <:+: method.toList ∧
      ∀ candidate, Offers role before candidate → ¬ keyword.text.toList <:+: candidate.toList

theorem isPublic_iff {name : String} : isPublic name = true ↔ Public name := by
  rw [isPublic, Public, decide_eq_true_eq]
  cases name.toList with
  | nil => simp
  | cons first rest => simp [List.cons_prefix_cons, eq_comm]

theorem isFactory_iff {decorators : List (Option String)} :
    isFactory decorators = true ↔
      some "classmethod" ∈ decorators ∨ some "staticmethod" ∈ decorators := by
  simp only [isFactory, factoryDecorators, List.any_eq_true, Option.any_eq_true, List.contains_iff_mem,
    List.mem_cons, List.not_mem_nil, or_false]
  constructor
  · rintro ⟨decorator, hmem, name, rfl, rfl | rfl⟩
    · exact .inl hmem
    · exact .inr hmem
  · rintro (hmem | hmem)
    · exact ⟨_, hmem, _, rfl, .inl rfl⟩
    · exact ⟨_, hmem, _, rfl, .inr rfl⟩

theorem roleOf_eq_iff {role : Role} {decorators : List (Option String)} :
    roleOf decorators = role ↔ (role = .deserialize ↔
      some "classmethod" ∈ decorators ∨ some "staticmethod" ∈ decorators) := by
  rw [← isFactory_iff, roleOf]
  cases role <;> cases isFactory decorators <;> simp

/-- The name of a statement that is a public method for a role. -/
def methodName? (role : Role) : Statement → Option String
  | .functionDef name decorators =>
      if isPublic name && roleOf decorators = role then some name else none
  | _ => none

theorem methods_eq_filterMap (role : Role) (body : List Statement) :
    methods role body = body.filterMap (methodName? role) := by
  rfl

theorem methodName?_eq_some_iff {role : Role} {statement : Statement} {method : String} :
    methodName? role statement = some method ↔
      ∃ decorators, statement = .functionDef method decorators ∧ Fits role method decorators := by
  constructor
  · intro h
    cases statement with
    | functionDef name decorators =>
        simp only [methodName?, Bool.and_eq_true, decide_eq_true_eq, Option.ite_none_right_eq_some,
          Option.some.injEq, isPublic_iff, roleOf_eq_iff] at h
        obtain ⟨hfits, rfl⟩ := h
        exact ⟨decorators, rfl, hfits⟩
    | classDef name body => cases h
    | asyncFunctionDef name => cases h
    | other => cases h
  · rintro ⟨decorators, rfl, hpublic, hrole⟩
    simp [methodName?, isPublic_iff.mpr hpublic, roleOf_eq_iff.mpr hrole]

theorem mem_methods {role : Role} {body : List Statement} {method : String} :
    method ∈ methods role body ↔ Offers role body method := by
  simp only [methods_eq_filterMap, List.mem_filterMap, methodName?_eq_some_iff, Offers]
  constructor
  · rintro ⟨_, hmem, decorators, rfl, hfits⟩
    exact ⟨decorators, hmem, hfits⟩
  · rintro ⟨decorators, hmem, hfits⟩
    exact ⟨_, hmem, decorators, rfl, hfits⟩

theorem find?_methods_eq_some_iff {role : Role} {body : List Statement} {keyword : Keyword}
    {method : String} :
    (methods role body).find? keyword.matchesIn = some method ↔
      ∃ before decorators after, body = before ++ .functionDef method decorators :: after ∧
        Fits role method decorators ∧ keyword.text.toList <:+: method.toList ∧
        ∀ candidate, Offers role before candidate →
          ¬ keyword.text.toList <:+: candidate.toList := by
  rw [List.find?_eq_some_iff_append, Keyword.matchesIn_iff]
  constructor
  · rintro ⟨hmarked, front, back, hsplit, hfront⟩
    rw [methods_eq_filterMap, List.filterMap_eq_append_iff] at hsplit
    obtain ⟨bodyFront, bodyBack, rfl, rfl, hback⟩ := hsplit
    obtain ⟨skipped, statement, after, rfl, hskipped, hmethod, -⟩ :=
      List.filterMap_eq_cons_iff.mp hback
    obtain ⟨decorators, rfl, hfits⟩ := methodName?_eq_some_iff.mp hmethod
    refine ⟨bodyFront ++ skipped, decorators, after, by simp, hfits, hmarked, ?_⟩
    intro candidate hoffers
    rw [← mem_methods, methods_eq_filterMap, List.filterMap_append,
      List.filterMap_eq_nil_iff.mpr hskipped, List.append_nil] at hoffers
    rw [← Keyword.matchesIn_iff]
    simpa using hfront candidate hoffers
  · rintro ⟨before, decorators, after, rfl, hfits, hmarked, hbefore⟩
    refine ⟨hmarked, methods role before, methods role after, ?_, ?_⟩
    · rw [methods_eq_filterMap, List.filterMap_append,
        List.filterMap_cons_some (methodName?_eq_some_iff.mpr ⟨decorators, rfl, hfits⟩),
        ← methods_eq_filterMap, ← methods_eq_filterMap]
    · intro candidate hmem
      have hnot := hbefore candidate (mem_methods.mp hmem)
      rw [← Keyword.matchesIn_iff] at hnot
      simpa using hnot

theorem marked?_eq_some_iff {keywords : List Keyword} {role : Role} {body : List Statement}
    {method : String} :
    marked? keywords (methods role body) = some method ↔ Chosen keywords role body method := by
  have hnone : ∀ keyword : Keyword, (methods role body).find? keyword.matchesIn = none ↔
      ∀ candidate, Offers role body candidate → ¬ keyword.text.toList <:+: candidate.toList := by
    intro keyword
    simp only [List.find?_eq_none, mem_methods, Keyword.matchesIn_iff]
  rw [marked?, List.findSome?_eq_some_iff]
  simp only [hnone, find?_methods_eq_some_iff, Chosen]
  constructor
  · rintro ⟨earlier, keyword, later, hkeywords, hmethod, hearlier⟩
    exact ⟨earlier, keyword, later, hkeywords, hearlier, hmethod⟩
  · rintro ⟨earlier, keyword, later, hkeywords, hearlier, hmethod⟩
    exact ⟨earlier, keyword, later, hkeywords, hmethod, hearlier⟩

theorem isSome_marked?_iff {keywords : List Keyword} {role : Role} {body : List Statement} :
    (marked? keywords (methods role body)).isSome ↔ ∃ method, Eligible keywords role body method := by
  simp only [marked?, List.findSome?_isSome_iff, List.find?_isSome, mem_methods,
    Keyword.matchesIn_iff, Eligible]
  constructor
  · rintro ⟨keyword, hkeyword, method, hoffers, hmarked⟩
    exact ⟨method, hoffers, keyword, hkeyword, hmarked⟩
  · rintro ⟨method, hoffers, keyword, hkeyword, hmarked⟩
    exact ⟨keyword, hkeyword, method, hoffers, hmarked⟩

theorem marked?_ne_empty {keywords : List Keyword} {names : List String} {method : String}
    (h : marked? keywords names = some method) : method ≠ "" := by
  obtain ⟨_, keyword, _, _, hfind, _⟩ := List.findSome?_eq_some_iff.mp h
  exact Keyword.name_ne_empty_of_matchesIn (List.find?_some hfind)

end ProviderGen.Detection
