import ProviderGen.Interpreter.Common
import ProviderGen.Proofs.Provider.Records

namespace ProviderGen

namespace Provider

/-- The names that a line of a provider binds or evaluates when the module is imported: an alias,
a class and what it derives from, or a decorator. Annotations are not evaluated. -/
def namesUsedBy (line : String) : List String :=
  match wordsIn line with
  | ["import", _, "as", name] => [name]
  | ["from", _, "import", _, "as", name] => [name]
  | ["class", header] => [headName header, headName (afterName header)]
  | [word] => if word.toList.head? = some '@' then [headName (afterName word)] else []
  | _ => []

/-- The names that a provider uses for no models at all. -/
def ownNames (className projectName : String) : List String :=
  (preamble (shownName className projectName) ++ classLines ⟨[]⟩ className).flatMap namesUsedBy

theorem namesUsedBy_words {first second : String} (hfirst : ' ' ∉ first.toList ∧ first ≠ "")
    (hsecond : ' ' ∉ second.toList ∧ second ≠ "") (h : first ∉ ["class", "import", "from"])
    (rest : String) : namesUsedBy (first ++ " " ++ (second ++ " " ++ rest)) = [] := by
  simp only [List.mem_cons, List.not_mem_nil, or_false, not_or] at h
  unfold namesUsedBy
  rw [wordsIn_cons hfirst.1 hfirst.2, wordsIn_cons hsecond.1 hsecond.2]
  simp [h]

theorem namesUsedBy_preamble (projectName : String) :
    (preamble projectName).flatMap namesUsedBy = ["_typing", "_provider"] := by
  have hcomment :
      namesUsedBy s!"# Produced by `modelgen generate models` from the {projectName} sources." =
        [] := by
    have hline : s!"# Produced by `modelgen generate models` from the {projectName} sources." =
        "#" ++ " " ++ ("Produced" ++ " " ++
          ("by `modelgen generate models` from the " ++ projectName ++ " sources.")) :=
      String.toList_inj.mp (by simp [ToString.toString])
    rw [hline]
    exact namesUsedBy_words (by decide) (by decide) (by decide) _
  have hdocument : namesUsedBy s!"\"\"\"Model provider for {projectName}.\"\"\"" = [] := by
    have hline : s!"\"\"\"Model provider for {projectName}.\"\"\"" =
        "\"\"\"Model" ++ " " ++ ("provider" ++ " " ++ ("for " ++ projectName ++ ".\"\"\"")) :=
      String.toList_inj.mp (by simp [ToString.toString])
    rw [hline]
    exact namesUsedBy_words (by decide) (by decide) (by decide) _
  have hfirst : namesUsedBy "# GENERATED CODE - DO NOT MODIFY BY HAND" = [] := by decide +kernel
  have hrest : ((preamble "").drop 3).flatMap namesUsedBy = ["_typing", "_provider"] := by
    decide +kernel
  have hlines : preamble projectName = ["# GENERATED CODE - DO NOT MODIFY BY HAND",
      s!"# Produced by `modelgen generate models` from the {projectName} sources.",
      s!"\"\"\"Model provider for {projectName}.\"\"\""] ++ (preamble "").drop 3 := rfl
  rw [hlines, List.flatMap_append, hrest]
  simp only [List.flatMap_cons, List.flatMap_nil, hfirst, hcomment, hdocument, List.nil_append]

theorem namesUsedBy_classLines {className : String}
    (hclass : Text.isIdentifier className.toList = true) :
    (classLines ⟨[]⟩ className).flatMap namesUsedBy =
      [className, "_provider", "property", "property"] := by
  have hheader : namesUsedBy s!"class {className}(_provider.ModelProvider):" =
      [className, "_provider"] := by
    have hname : headName (className ++ "(_provider.ModelProvider):") = className :=
      headName_append hclass (by decide)
    have hbase : headName (afterName (className ++ "(_provider.ModelProvider):")) =
        "_provider" := by
      have hword : className ++ "(_provider.ModelProvider):" =
          className ++ String.singleton '(' ++ ("_provider" ++ ".ModelProvider):") :=
        String.toList_inj.mp (by simp)
      rw [hword, afterName_append _ _ hclass (by decide)]
      exact headName_append (by decide) (by decide)
    unfold namesUsedBy
    rw [wordsIn_classHeader hclass]
    simp only [hname, hbase]
  have hblank : namesUsedBy "" = [] := by decide
  have hrest : ((classLines ⟨[]⟩ "").drop 3).flatMap namesUsedBy = ["property", "property"] := by
    decide +kernel
  have hlines : classLines ⟨[]⟩ className =
      ["", "", s!"class {className}(_provider.ModelProvider):"] ++ (classLines ⟨[]⟩ "").drop 3 :=
    rfl
  rw [hlines, List.flatMap_append, hrest]
  simp only [List.flatMap_cons, List.flatMap_nil, hblank, hheader, List.nil_append, List.append_nil,
    List.cons_append]

theorem ownNames_eq {className : String} (hclass : Text.isIdentifier className.toList = true)
    (projectName : String) : ownNames className projectName =
      ["_typing", "_provider", className, "_provider", "property", "property"] := by
  rw [ownNames, List.flatMap_append, namesUsedBy_preamble, namesUsedBy_classLines hclass]
  rfl

end Provider

namespace Workplace

open Detection

variable {workplace : Workplace} {path : Path} {paths : List Path} {models : List Model}
  {model : Model}

theorem public_of_mem_modelsOf [Interpreter] (h : workplace.modelsOf path = .ok models)
    (hmodel : model ∈ models) :
    Public model.name := by
  obtain ⟨outline, importPath, rfl, -⟩ := exists_detect_of_modelsOf h
  obtain ⟨detected, hdetected, rfl⟩ := List.mem_map.mp hmodel
  obtain ⟨-, hpublic, -⟩ := mem_detect.mp hdetected
  exact hpublic

theorem public_of_mem_analyze [Interpreter] (h : (workplace.analyze paths).result = .ok models)
    (hmodel : model ∈ models) : Public model.name := by
  obtain ⟨path, -, declared, hdeclared, hmem⟩ := exists_modelsOf_of_mem_analyze h hmodel
  exact public_of_mem_modelsOf hdeclared hmem

/-- A provider that is written for models that were found imports just their names. Of these, only
that of the decorator of its properties is one that it uses itself. -/
theorem captured_iff [Interpreter] {projectName text : String}
    (h : (workplace.analyze paths).result = .ok models)
    (hsource : Provider.source ⟨models⟩ (providerName projectName) projectName = .ok text) :
    ∃ imports, Registry.imports ⟨models⟩ = .ok imports ∧
      text = Provider.textWith ⟨models⟩ (providerName projectName) projectName imports ∧
      ∀ name, ((∃ imported ∈ imports, name ∈ imported.2) ↔ ∃ model ∈ models, model.name = name) ∧
        ((∃ imported ∈ imports, name ∈ imported.2) →
          (name ∈ Provider.ownNames (providerName projectName) projectName ↔ name = "property")) := by
  obtain ⟨imports, himports, htext⟩ := Provider.source_eq_ok hsource
  have hnames : ∀ name, (∃ imported ∈ imports, name ∈ imported.2) ↔
      ∃ model ∈ models, model.name = name := by
    intro name
    constructor
    · rintro ⟨imported, himported, hname⟩
      obtain ⟨model, hmodel, -, heq⟩ :=
        (Registry.exists_imported_iff himports).mp ⟨imported.2, himported, hname⟩
      exact ⟨model, hmodel, heq⟩
    · rintro ⟨model, hmodel, heq⟩
      obtain ⟨module, hmodule⟩ := exists_module_of_mem_analyze h hmodel
      obtain ⟨names, himported, hname⟩ :=
        (Registry.exists_imported_iff himports).mpr ⟨model, hmodel, hmodule, heq⟩
      exact ⟨_, himported, hname⟩
  refine ⟨imports, himports, htext, fun name => ⟨hnames name, fun hname => ?_⟩⟩
  obtain ⟨model, hmodel, rfl⟩ := (hnames name).mp hname
  obtain ⟨hclassName, hclash⟩ := Provider.name_of_source hsource
  -- The aliases start with an underscore, and no model has the name of the class.
  have hpublic := isPublic_iff.mpr (public_of_mem_analyze h hmodel)
  have halias : ∀ {name}, isPublic name = false → model.name ≠ name := by
    rintro _ hprivate rfl
    rw [hpublic] at hprivate
    cases hprivate
  have htyping : model.name ≠ "_typing" := halias (by decide)
  have hprovider : model.name ≠ "_provider" := halias (by decide)
  have hclass : model.name ≠ providerName projectName := fun heq =>
    hclash (heq ▸ List.mem_map_of_mem hmodel)
  rw [Provider.ownNames_eq hclassName]
  simp [htyping, hprovider, hclass]

open Interpreter.Common

/-- A workplace with a file that declares a model of the decorator's name. -/
def captureWorkplace : Workplace where
  disk :=
    ⟨.directory [("estate.py", .file (Text.encode "class property:\n def to_json(s): 0\n"))],
      [], "/"⟩
  discovery := .standard
  root := ⟨.root, []⟩

/-- The model that the file declares. -/
def captureModel : Model := ⟨"property", "estate.py", .ofMethod "to_json", .none⟩

theorem analyze_captureWorkplace :
    (captureWorkplace.analyze [⟨.root, ["estate.py"]⟩]).result = .ok [captureModel] := by
  decide +kernel

theorem source_captureModel :
    ∃ text, Provider.source ⟨[captureModel]⟩ (providerName "pet") "pet" = .ok text := by
  have hmodule : ∀ model ∈ [captureModel], ∃ module, model.module = .ok module :=
    fun model hmodel => exists_module_of_mem_analyze analyze_captureWorkplace hmodel
  obtain ⟨imports, -, hsource⟩ :=
    Provider.source_of_modules (isIdentifier_providerName "pet") hmodule "pet"
  exact ⟨_, hsource.trans (if_neg (by decide +kernel))⟩

theorem captured_iff_captureWorkplace :
    (captureWorkplace.analyze [⟨.root, ["estate.py"]⟩]).result = .ok [captureModel] ∧
      ∃ text imports, Provider.source ⟨[captureModel]⟩ (providerName "pet") "pet" = .ok text ∧
        text = Provider.textWith ⟨[captureModel]⟩ (providerName "pet") "pet" imports ∧
        (∃ imported ∈ imports, "property" ∈ imported.2) ∧
        "property" ∈ Provider.ownNames (providerName "pet") "pet" := by
  obtain ⟨text, hsource⟩ := source_captureModel
  obtain ⟨imports, -, htext, hnames⟩ := captured_iff analyze_captureWorkplace hsource
  obtain ⟨himported, hown⟩ := hnames "property"
  have hname := himported.mpr ⟨captureModel, List.mem_singleton_self _, rfl⟩
  exact ⟨analyze_captureWorkplace, text, imports, hsource, htext, hname, (hown hname).mpr rfl⟩

/-- Not all providers for models that were found keep the names that they use themselves. -/
theorem not_forall_uncaptured :
    ¬ ∀ (workplace : Workplace) (paths : List Path) (models : List Model)
        (projectName text : String) (imports : List (String × List String)),
      (workplace.analyze paths).result = .ok models →
      Provider.source ⟨models⟩ (providerName projectName) projectName = .ok text →
      Registry.imports ⟨models⟩ = .ok imports →
      ∀ imported ∈ imports, ∀ name ∈ imported.2,
        name ∉ Provider.ownNames (providerName projectName) projectName := by
  intro h
  obtain ⟨text, hsource⟩ := source_captureModel
  have himports : Registry.imports ⟨[captureModel]⟩ = .ok [("estate", ["property"])] := by
    decide +kernel
  have hfree := h captureWorkplace _ _ "pet" text _ analyze_captureWorkplace hsource himports
    ("estate", ["property"]) (List.mem_singleton_self _) "property" (List.mem_singleton_self _)
  rw [Provider.ownNames_eq (isIdentifier_providerName "pet")] at hfree
  exact hfree (by simp)

end Workplace

end ProviderGen
