import ProviderGen.Proofs.Agreement
import ProviderGen.Proofs.Declared

namespace ProviderGen

namespace Detection

open Source

variable {body : List Statement} {name : String} {decorators : List (Option String)} {role : Role}

/-- Decorators make a method one that a role asks for: a factory, or a method of an instance. -/
def Suits (role : Role) (decorators : List (Option String)) : Prop :=
  role = .deserialize ↔ some "classmethod" ∈ decorators ∨ some "staticmethod" ∈ decorators

instance (role : Role) (decorators : List (Option String)) : Decidable (Suits role decorators) :=
  inferInstanceAs (Decidable (_ ↔ _))

/-- The decorators of the last definition of a method in a class body. -/
def LastMethod (body : List Statement) (name : String) (decorators : List (Option String)) : Prop :=
  ∃ before after, body = before ++ .functionDef name decorators :: after ∧
    ∀ other, Statement.functionDef name other ∉ after

/-- A method is defined as a role asks for, and later, for the last time, not so. -/
def Redefined (role : Role) (body : List Statement) (name : String) : Prop :=
  ∃ before suitable between last after,
    body = before ++ .functionDef name suitable :: between ++ .functionDef name last :: after ∧
      Suits role suitable ∧ ¬ Suits role last ∧ ∀ other, Statement.functionDef name other ∉ after

/-- The decorators of a definition of a method. -/
def decoratorsOf? (name : String) : Statement → Option (List (Option String))
  | .functionDef other decorators => if other = name then some decorators else none
  | _ => none

/-- The decorators of the last definition of a method, if there is one. -/
def lastMethod? (name : String) (body : List Statement) : Option (List (Option String)) :=
  body.reverse.findSome? (decoratorsOf? name)

theorem decoratorsOf?_eq_some_iff {statement : Statement} :
    decoratorsOf? name statement = some decorators ↔ statement = .functionDef name decorators := by
  cases statement with
  | functionDef other found =>
      simp only [decoratorsOf?, Option.ite_none_right_eq_some, Option.some.injEq,
        Statement.functionDef.injEq]
  | classDef other body => simp [decoratorsOf?]
  | asyncFunctionDef other => simp [decoratorsOf?]
  | other => simp [decoratorsOf?]

theorem decoratorsOf?_eq_none_iff {statement : Statement} :
    decoratorsOf? name statement = none ↔ ∀ decorators, statement ≠ .functionDef name decorators := by
  simp only [Option.eq_none_iff_forall_ne_some, ne_eq, decoratorsOf?_eq_some_iff]

theorem lastMethod?_eq_some_iff :
    lastMethod? name body = some decorators ↔ LastMethod body name decorators := by
  rw [lastMethod?, List.findSome?_eq_some_iff]
  simp only [decoratorsOf?_eq_some_iff, decoratorsOf?_eq_none_iff]
  constructor
  · rintro ⟨after, _, before, hbody, rfl, hafter⟩
    refine ⟨before.reverse, after.reverse, by simpa using congrArg List.reverse hbody, ?_⟩
    intro other hmem
    exact hafter _ (List.mem_reverse.mp hmem) other rfl
  · rintro ⟨before, after, rfl, hafter⟩
    refine ⟨after.reverse, _, before.reverse, by simp, rfl, ?_⟩
    rintro _ hmem other rfl
    exact hafter other (List.mem_reverse.mp hmem)

theorem LastMethod.unique {others : List (Option String)} (h : LastMethod body name decorators)
    (hother : LastMethod body name others) : decorators = others :=
  Option.some.inj ((lastMethod?_eq_some_iff.mpr h).symm.trans (lastMethod?_eq_some_iff.mpr hother))

theorem exists_lastMethod (h : .functionDef name decorators ∈ body) :
    ∃ last, LastMethod body name last := by
  have hsome : (lastMethod? name body).isSome := by
    rw [lastMethod?, List.findSome?_isSome_iff]
    exact ⟨_, List.mem_reverse.mpr h, by simp [decoratorsOf?]⟩
  obtain ⟨last, hlast⟩ := Option.isSome_iff_exists.mp hsome
  exact ⟨last, lastMethod?_eq_some_iff.mp hlast⟩

theorem LastMethod.suits_iff {suitable : List (Option String)} (h : LastMethod body name decorators)
    (hmem : .functionDef name suitable ∈ body) (hsuits : Suits role suitable) :
    Suits role decorators ↔ ¬ Redefined role body name := by
  constructor
  · rintro hlast ⟨before, _, between, last, after, hbody, -, hother, hafter⟩
    obtain rfl : decorators = last := h.unique ⟨_, after, hbody, hafter⟩
    exact hother hlast
  · intro hkept
    by_contra hother
    obtain ⟨before, after, rfl, hafter⟩ := h
    refine hkept ?_
    -- A suitable definition can only stand in front of the last one.
    rcases List.mem_append.mp hmem with hmem | hmem
    · obtain ⟨front, between, rfl⟩ := List.append_of_mem hmem
      exact ⟨front, suitable, between, decorators, after, rfl, hsuits, hother, hafter⟩
    · rcases List.mem_cons.mp hmem with heq | hmem
      · obtain ⟨-, rfl⟩ := Statement.functionDef.inj heq
        exact absurd hsuits hother
      · exact absurd hmem (hafter suitable)

end Detection

namespace Workplace

open Source Detection

section Found

variable [Interpreter] {workplace : Workplace} {path : Path} {text : String} {models : List Model}

theorem exists_declares_of_result (h : (workplace.analyzeText path text).result = .ok models) :
    ∃ outline importPath, Source.outline text = .ok outline ∧
      Declares workplace.discovery outline importPath models := by
  obtain ⟨outline, importPath, houtline, rfl, -⟩ := exists_detect_of_analyzeText h
  exact ⟨outline, importPath, houtline, declares_detect ..⟩

/-- A method that is recorded for a role has a definition that the role asks for. Its last definition
is one, too, unless the method is redefined. -/
theorem recorded_suits_iff (h : (workplace.analyzeText path text).result = .ok models) :
    ∃ outline, Source.outline text = .ok outline ∧
      ∀ model ∈ models, ∃ body, LastClass outline.statements model.name body ∧
        ∀ role method, (model.ability role).method = some method →
          Offers role body method ∧ ∃ decorators, LastMethod body method decorators ∧
            (Suits role decorators ↔ ¬ Redefined role body method) := by
  obtain ⟨outline, importPath, houtline, hdeclares⟩ := exists_declares_of_result h
  refine ⟨outline, houtline, fun model hmodel => ?_⟩
  obtain ⟨body, hlast, hchosen⟩ := hdeclares.chosen model hmodel
  refine ⟨body, hlast, fun role method hmethod => ?_⟩
  obtain ⟨_, _, _, -, -, before, suitable, after, hbody, hfits, -⟩ :=
    (hchosen role method).mp hmethod
  have hmem : .functionDef method suitable ∈ body := by simp [hbody]
  obtain ⟨decorators, hdecorators⟩ := exists_lastMethod hmem
  exact ⟨⟨suitable, hmem, hfits⟩, decorators, hdecorators, hdecorators.suits_iff hmem hfits.2⟩

end Found

open Interpreter.Common

/-- A text of a class that defines a method of an instance again as one of the class. -/
def redefinedText : String :=
  "class A:\n def to_json(s): 0\n @classmethod\n def to_json(c): 0\n"

/-- The models that the text is found to declare. -/
def redefinedModels : List Model := [⟨"A", "m.py", .ofMethod "to_json", .none⟩]

theorem exists_outline_redefinedText :
    ∃ outline, Source.outline redefinedText = .ok outline ∧
      (emptyWorkplace.analyzeText ⟨.root, ["m.py"]⟩ redefinedText).result = .ok redefinedModels ∧
      ∃ body, LastClass outline.statements "A" body ∧
        LastMethod body "to_json" [some "classmethod"] := by
  have himport : emptyWorkplace.importPath ⟨.root, ["m.py"]⟩ = .ok "m.py" := by decide
  -- What is detected and what the class holds are read off one outline, so that the text is parsed once.
  have hfound : (Source.outline redefinedText).toOption.any (fun outline =>
      (detect .standard outline).map (modelOf "m.py") = redefinedModels ∧
        ∃ entry ∈ classes outline, entry.1 = "A" ∧
          lastMethod? "to_json" entry.2 = some [some "classmethod"]) = true := by
    decide +kernel
  obtain ⟨outline, houtline, hfound⟩ := exists_of_any_toOption hfound
  obtain ⟨hmodels, ⟨_, body⟩, hmem, rfl, hlast⟩ := of_decide_eq_true hfound
  refine ⟨outline, houtline, ?_, body, (((binds_classes outline).mem_iff _ _).mp hmem).2,
    lastMethod?_eq_some_iff.mp hlast⟩
  rw [result_analyzeText_of_outline houtline himport]
  exact congrArg _ hmodels

theorem recorded_suits_iff_redefinedText :
    (emptyWorkplace.analyzeText ⟨.root, ["m.py"]⟩ redefinedText).result = .ok redefinedModels ∧
      ∃ outline body, Source.outline redefinedText = .ok outline ∧
        LastClass outline.statements "A" body ∧ Redefined .serialize body "to_json" := by
  obtain ⟨outline, houtline, hresult, body, hlast, hmethod⟩ := exists_outline_redefinedText
  obtain ⟨other, hother, hmodels⟩ := recorded_suits_iff hresult
  obtain rfl : outline = other := Except.ok.inj (houtline.symm.trans hother)
  obtain ⟨found, hfound, hrecorded⟩ := hmodels _ (List.mem_singleton_self _)
  obtain rfl : body = found := hlast.unique hfound
  obtain ⟨-, decorators, hdecorators, hsuits⟩ := hrecorded .serialize "to_json" rfl
  obtain rfl := hmethod.unique hdecorators
  refine ⟨hresult, outline, body, houtline, hlast, ?_⟩
  by_contra hkept
  exact absurd (hsuits.mpr hkept) (by decide)

/-- A method of the class is recorded as one of an instance. -/
theorem not_forall_recorded_suits :
    ¬ ∀ (workplace : Workplace) (path : Path) (text : String) (models : List Model)
        (outline : Outline), (workplace.analyzeText path text).result = .ok models →
      Source.outline text = .ok outline → ∀ model ∈ models, ∀ body,
        LastClass outline.statements model.name body → ∀ role method,
          (model.ability role).method = some method → ∀ decorators,
            LastMethod body method decorators → Suits role decorators := by
  intro h
  obtain ⟨outline, houtline, hresult, body, hlast, hmethod⟩ := exists_outline_redefinedText
  have hsuits := h _ _ _ _ outline hresult houtline _ (List.mem_singleton_self _) body hlast
    .serialize "to_json" rfl _ hmethod
  exact absurd hsuits (by decide)

end Workplace

end ProviderGen
