import ProviderGen.Interpreter.Common
import ProviderGen.Proofs.Agreement
import ProviderGen.Proofs.Binding

namespace ProviderGen

namespace Ability

variable {method : Option String}

theorem present_ofMethod (h : ∀ name, method = some name → name ≠ "") :
    (ofMethod method).present = method.isSome := by
  cases method with
  | none => simp [ofMethod]
  | some name => simpa [ofMethod] using h name rfl

theorem declared_isSome (h : ∀ name, method = some name → name ≠ "") (model : String) (role : Role) :
    declared model role method.isSome method = .ok (ofMethod method) := by
  have hnamed : method.isSome = true → method.getD "" ≠ "" := by
    intro hsome
    obtain ⟨name, rfl⟩ := Option.isSome_iff_exists.mp hsome
    exact h name rfl
  rw [declared, dif_pos hnamed]
  simp only [← present_ofMethod h]
  rfl

end Ability

def Detected.method (detected : Detected) : Role → Option String
  | .serialize => detected.serialize
  | .deserialize => detected.deserialize

namespace Detection

open Source

variable {discovery : Discovery} {outline : Outline}

theorem detectClass?_eq (discovery : Discovery) (name : String) (body : List Statement) :
    detectClass? discovery name body =
      let serialize := marked? (discovery.keywords .serialize) (methods .serialize body)
      let deserialize := marked? (discovery.keywords .deserialize) (methods .deserialize body)
      if serialize.isSome ∨ deserialize.isSome then some ⟨name, serialize, deserialize⟩ else none := by
  simp only [detectClass?]
  cases marked? (discovery.keywords .serialize) (methods .serialize body) <;>
    cases marked? (discovery.keywords .deserialize) (methods .deserialize body) <;> rfl

theorem detectClass?_eq_some_iff {name : String} {body : List Statement} {detected : Detected} :
    detectClass? discovery name body = some detected ↔
      detected.name = name ∧
        (∀ role, detected.method role = marked? (discovery.keywords role) (methods role body)) ∧
        ∃ role method, Eligible (discovery.keywords role) role body method := by
  simp only [← isSome_marked?_iff, detectClass?_eq, Role.exists_iff, Option.ite_none_right_eq_some,
    Option.some.injEq]
  constructor
  · rintro ⟨hsome, rfl⟩
    refine ⟨rfl, ?_, hsome⟩
    intro role
    cases role <;> rfl
  · rintro ⟨rfl, hmethods, hsome⟩
    refine ⟨hsome, ?_⟩
    rw [← hmethods .serialize, ← hmethods .deserialize]
    rfl

theorem mem_detect {detected : Detected} :
    detected ∈ detect discovery outline ↔
      ∃ body, Public detected.name ∧ LastClass outline.statements detected.name body ∧
        (∀ role, detected.method role = marked? (discovery.keywords role) (methods role body)) ∧
        ∃ role method, Eligible (discovery.keywords role) role body method := by
  simp only [detect, List.mem_filterMap, Prod.exists, (binds_classes outline).mem_iff,
    detectClass?_eq_some_iff]
  constructor
  · rintro ⟨_, body, ⟨hpublic, hlast⟩, rfl, hmethods, heligible⟩
    exact ⟨body, hpublic, hlast, hmethods, heligible⟩
  · rintro ⟨body, hpublic, hlast, hmethods, heligible⟩
    exact ⟨_, body, ⟨hpublic, hlast⟩, rfl, hmethods, heligible⟩

theorem ordered_detect (discovery : Discovery) (outline : Outline) :
    (detect discovery outline).Pairwise fun first second =>
      firstPlace outline.statements first.name < firstPlace outline.statements second.name := by
  have hordered := List.pairwise_map.mp (binds_classes outline).ordered
  refine List.Pairwise.filterMap _ ?_ hordered
  rintro ⟨name, body⟩ ⟨name', body'⟩ hless detected hdetected detected' hdetected'
  obtain ⟨rfl, -⟩ := detectClass?_eq_some_iff.mp hdetected
  obtain ⟨rfl, -⟩ := detectClass?_eq_some_iff.mp hdetected'
  exact hless

theorem method_ne_empty {detected : Detected} (h : detected ∈ detect discovery outline) (role : Role)
    (name : String) (hname : detected.method role = some name) : name ≠ "" := by
  obtain ⟨body, -, -, hmethods, -⟩ := mem_detect.mp h
  exact marked?_ne_empty ((hmethods role).symm.trans hname)

end Detection

namespace Workplace

open Source Detection

variable {workplace : Workplace} {path : Path} {text importPath : String} {outline : Outline}
  {models : List Model}

section Found

variable [Interpreter]

theorem outlineOf_eq_ok_iff : outlineOf path text = .ok outline ↔ Source.outline text = .ok outline := by
  rw [outlineOf]
  cases Source.outline text with
  | error error => cases error <;> simp
  | ok found => simp

theorem result_analyzeText (workplace : Workplace) (path : Path) (text : String) :
    (workplace.analyzeText path text).result = do
      let outline ← outlineOf path text
      let detected := detect workplace.discovery outline
      if detected = [] then
        return []
      return detected.map (modelOf (← workplace.importPath path)) := by
  rw [analyzeText]
  cases outlineOf path text with
  | error error => rfl
  | ok outline =>
      simp only [Logged.ofExcept, Logged.andThen, bind, Except.bind]
      by_cases hclasses : classes outline = []
      · have hdetect : detect workplace.discovery outline = [] := by simp [detect, hclasses]
        simp [hclasses, hdetect, Logged.debug, pure, Except.pure]
      · by_cases hdetect : detect workplace.discovery outline = []
        · simp [hclasses, hdetect, pure, Except.pure]
        · cases workplace.importPath path with
          | error error => simp [hclasses, hdetect]
          | ok importPath => simp [hclasses, hdetect, pure, Except.pure]

theorem result_analyzeText_of_outline (houtline : Source.outline text = .ok outline)
    (himport : workplace.importPath path = .ok importPath) :
    (workplace.analyzeText path text).result =
      .ok ((detect workplace.discovery outline).map (modelOf importPath)) := by
  rw [result_analyzeText, outlineOf_eq_ok_iff.mpr houtline]
  cases hdetect : detect workplace.discovery outline with
  | nil => simp [bind, Except.bind, hdetect, pure, Except.pure]
  | cons detected rest => simp [bind, Except.bind, hdetect, himport, pure, Except.pure]

theorem exists_detect_of_analyzeText (h : (workplace.analyzeText path text).result = .ok models) :
    ∃ outline importPath, Source.outline text = .ok outline ∧
      models = (detect workplace.discovery outline).map (modelOf importPath) ∧
        (models ≠ [] → workplace.importPath path = .ok importPath) := by
  rw [result_analyzeText] at h
  obtain ⟨outline, houtline, h⟩ := bind_eq_ok_iff.mp h
  dsimp only at h
  split at h
  next hnothing =>
    obtain rfl : [] = models := Except.ok.inj h
    refine ⟨outline, "", outlineOf_eq_ok_iff.mp houtline, by simp [hnothing], ?_⟩
    exact fun hsome => absurd rfl hsome
  next =>
    obtain ⟨importPath, himport, h⟩ := bind_eq_ok_iff.mp h
    obtain rfl : _ = models := Except.ok.inj h
    exact ⟨outline, importPath, outlineOf_eq_ok_iff.mp houtline, rfl, fun _ => himport⟩

omit [Interpreter] in
theorem ability_modelOf (importPath : String) (detected : Detected) (role : Role) :
    (modelOf importPath detected).ability role = .ofMethod (detected.method role) := by
  cases role <;> rfl

/-- The models that an outline declares: one for each public class whose last statement holds an
eligible method, in the order of the first statements, with the methods that are chosen. Its
abilities are those that have a method, and pass the check of what is declared. -/
structure Declares (discovery : Discovery) (outline : Outline) (importPath : String)
    (models : List Model) : Prop where
  ordered : models.Pairwise fun first second =>
    firstPlace outline.statements first.name < firstPlace outline.statements second.name
  exists_iff : ∀ name, (∃ model ∈ models, model.name = name) ↔
    Public name ∧ ∃ body, LastClass outline.statements name body ∧
      ∃ role method, Eligible (discovery.keywords role) role body method
  chosen : ∀ model ∈ models, ∃ body, LastClass outline.statements model.name body ∧
    ∀ role method, (model.ability role).method = some method ↔
      Chosen (discovery.keywords role) role body method
  imported : ∀ model ∈ models, model.importPath = importPath
  present_eq : ∀ model ∈ models, ∀ role,
    (model.ability role).present = (model.ability role).method.isSome
  accepted : ∀ model ∈ models, ∀ role,
    Ability.declared model.name role (model.ability role).method.isSome (model.ability role).method =
      .ok (model.ability role)

omit [Interpreter] in
theorem declares_detect (discovery : Discovery) (outline : Outline) (importPath : String) :
    Declares discovery outline importPath
      ((detect discovery outline).map (modelOf importPath)) := by
  constructor
  · exact List.pairwise_map.mpr (ordered_detect discovery outline)
  · intro name
    constructor
    · rintro ⟨_, hmodel, rfl⟩
      obtain ⟨detected, hmem, rfl⟩ := List.mem_map.mp hmodel
      obtain ⟨body, hpublic, hlast, -, heligible⟩ := mem_detect.mp hmem
      exact ⟨hpublic, body, hlast, heligible⟩
    · rintro ⟨hpublic, body, hlast, heligible⟩
      let method := fun role => marked? (discovery.keywords role) (methods role body)
      have hmem : ⟨name, method .serialize, method .deserialize⟩ ∈ detect discovery outline := by
        refine mem_detect.mpr ⟨body, hpublic, hlast, ?_, heligible⟩
        intro role
        cases role <;> rfl
      exact ⟨_, List.mem_map_of_mem hmem, rfl⟩
  · intro model hmodel
    obtain ⟨detected, hmem, rfl⟩ := List.mem_map.mp hmodel
    obtain ⟨body, -, hlast, hmethods, -⟩ := mem_detect.mp hmem
    refine ⟨body, hlast, ?_⟩
    intro role method
    rw [ability_modelOf, ← marked?_eq_some_iff, ← hmethods role]
    rfl
  · intro model hmodel
    obtain ⟨detected, -, rfl⟩ := List.mem_map.mp hmodel
    rfl
  · intro model hmodel role
    obtain ⟨detected, hmem, rfl⟩ := List.mem_map.mp hmodel
    rw [ability_modelOf]
    exact Ability.present_ofMethod (method_ne_empty hmem role)
  · intro model hmodel role
    obtain ⟨detected, hmem, rfl⟩ := List.mem_map.mp hmodel
    rw [ability_modelOf]
    exact Ability.declared_isSome (method_ne_empty hmem role) _ role

/-- A text that can be parsed, in a file that can be imported, is found to declare exactly the models
that its outline declares. -/
theorem analyzeText_exact (houtline : Source.outline text = .ok outline)
    (himport : workplace.importPath path = .ok importPath) :
    ∃ models, (workplace.analyzeText path text).result = .ok models ∧
      Declares workplace.discovery outline importPath models := by
  refine ⟨_, ?_, declares_detect workplace.discovery outline importPath⟩
  have hparsed : outlineOf path text = .ok outline := by rw [outlineOf, houtline]
  rw [result_analyzeText, hparsed, himport]
  simp only [bind, Except.bind, pure, Except.pure]
  split
  next hnothing => simp [hnothing]
  next => rfl

end Found

open Interpreter.Common

/-- A text in which a class is stated twice. -/
def rangerText : String := "class Ranger: to_json\nclass Ranger:\n def to_json(self): 0\n"

/-- A disk without any file, and its top as the import root. -/
def emptyWorkplace : Workplace := ⟨⟨.directory [], [], "/"⟩, .standard, ⟨.root, []⟩⟩

/-- The models that the text declares. -/
def rangerModels : List Model := [⟨"Ranger", "zoo.py", .ofMethod "to_json", .none⟩]

theorem analyzeText_exact_rangerText :
    ∃ outline, Source.outline rangerText = .ok outline ∧
      emptyWorkplace.importPath ⟨.root, ["zoo.py"]⟩ = .ok "zoo.py" ∧
      (emptyWorkplace.analyzeText ⟨.root, ["zoo.py"]⟩ rangerText).result = .ok rangerModels ∧
      Declares .standard outline "zoo.py" rangerModels := by
  have himport : emptyWorkplace.importPath ⟨.root, ["zoo.py"]⟩ = .ok "zoo.py" := by decide +kernel
  have hresult : (emptyWorkplace.analyzeText ⟨.root, ["zoo.py"]⟩ rangerText).result =
      .ok rangerModels := by
    decide +kernel
  cases houtline : Source.outline rangerText with
  | error error =>
      rw [result_analyzeText, outlineOf, houtline] at hresult
      cases error <;> cases hresult
  | ok outline =>
      obtain ⟨models, hmodels, hdeclares⟩ := analyzeText_exact houtline himport
      obtain rfl : rangerModels = models := Except.ok.inj (hresult.symm.trans hmodels)
      exact ⟨outline, rfl, himport, hresult, hdeclares⟩

end Workplace

end ProviderGen
