import ProviderGen.Interpreter.Common
import ProviderGen.Proofs.Analysed
import ProviderGen.Proofs.Grouping
import ProviderGen.Session

namespace ProviderGen

namespace Registry

section Perm

variable {models others : List Model}

theorem agree_imports (h : models.Perm others) :
    Agree (· = ·) (imports ⟨models⟩) (imports ⟨others⟩) := by
  refine (Agree.mapM_of_perm _ h).bind ?_
  intro pairs pairs' hpairs
  exact .ok (grouped_eq_of_mem_iff fun pair => hpairs.mem_iff)

theorem byName_eq_of_perm (hnames : (models.map Model.name).Nodup) (h : models.Perm others) :
    byName ⟨models⟩ = byName ⟨others⟩ :=
  Text.sortBy_eq_of_perm hnames h

theorem able_eq_of_perm (hnames : (models.map Model.name).Nodup) (h : models.Perm others)
    (role : Role) : able ⟨models⟩ role = able ⟨others⟩ role := by
  refine Text.sortBy_eq_of_perm ?_ (h.filter _)
  exact hnames.sublist (List.Sublist.map _ List.filter_sublist)

end Perm

end Registry

namespace Provider

variable {models others : List Model}

theorem classLines_eq_of_perm (hnames : (models.map Model.name).Nodup) (h : models.Perm others)
    (className : String) : classLines ⟨models⟩ className = classLines ⟨others⟩ className := by
  simp only [classLines, roleLines, h.length_eq, Registry.byName_eq_of_perm hnames h,
    Registry.able_eq_of_perm hnames h]

/-- The text of a provider with some imports. -/
def textWith (registry : Registry) (className projectName : String)
    (imports : List (String × List String)) : String :=
  let projectName := if projectName = "" then className else projectName
  let lines := preamble projectName ++ imports.map importLine ++ classLines registry className
  String.join (lines.map (· ++ "\n"))

theorem source_eq (registry : Registry) (className projectName : String) :
    source registry className projectName =
      if Text.isIdentifier className.toList = false then .error (.invalidName className)
      else if className ∈ registry.names then .error (.nameClash className)
      else do
        return textWith registry className projectName
          (← registry.imports.mapError .notImportable) := by
  simp only [← List.contains_iff_mem]
  unfold source
  cases Text.isIdentifier className.toList <;> cases registry.names.contains className <;> rfl

theorem agree_source (hnames : (models.map Model.name).Nodup) (h : models.Perm others)
    (className projectName : String) :
    Agree (· = ·) (source ⟨models⟩ className projectName)
      (source ⟨others⟩ className projectName) := by
  have hclash : className ∈ Registry.names ⟨models⟩ ↔ className ∈ Registry.names ⟨others⟩ :=
    (h.map Model.name).mem_iff
  have htext : textWith ⟨models⟩ className projectName = textWith ⟨others⟩ className projectName := by
    funext imports
    rw [textWith, textWith, classLines_eq_of_perm hnames h]
  rw [source_eq, source_eq, htext]
  simp only [hclash]
  split
  · exact .error _ _
  · split
    · exact .error _ _
    · refine ((Registry.agree_imports h).mapError _).bind ?_
      rintro imports _ rfl
      exact .ok rfl

end Provider

namespace Workplace

section Order

variable [Interpreter] {workplace : Workplace} {paths others : List Path} {models : List Model}

/-- Analysing distinct files in another order gives the same models in another order. -/
theorem exists_analyze_of_perm (hpaths : paths.Nodup) (h : paths.Perm others)
    (hmodels : (workplace.analyze paths).result = .ok models) :
    ∃ models', (workplace.analyze others).result = .ok models' ∧ models.Perm models' ∧
      (models.map Model.name).Nodup := by
  obtain ⟨lists, hdeclared, rfl, hnodup⟩ := (analyze_eq_ok_iff hpaths).mp hmodels
  have hlists := Agree.mapM_of_perm workplace.declaredBy h
  rw [hdeclared] at hlists
  cases hothers : others.mapM workplace.declaredBy with
  | error error =>
      rw [hothers] at hlists
      cases hlists
  | ok lists' =>
      rw [hothers] at hlists
      cases hlists with
      | ok hlists =>
          have hperm := hlists.flatten.map Prod.fst
          have hnodup' := (hperm.map Model.name).nodup_iff.mp hnodup
          exact ⟨_, (analyze_eq_ok_iff (h.nodup_iff.mp hpaths)).mpr ⟨lists', hothers, rfl, hnodup'⟩,
            hperm, hnodup⟩

theorem agree_analyze (hpaths : paths.Nodup) (h : paths.Perm others) :
    Agree (fun models models' => models.Perm models' ∧ (models.map Model.name).Nodup)
      (workplace.analyze paths).result (workplace.analyze others).result := by
  cases hfirst : (workplace.analyze paths).result with
  | ok models =>
      obtain ⟨models', hsecond, hperm⟩ := exists_analyze_of_perm hpaths h hfirst
      rw [hsecond]
      exact .ok hperm
  | error error =>
      cases hsecond : (workplace.analyze others).result with
      | error error' => exact .error error error'
      | ok models =>
          obtain ⟨models', hagain, -⟩ :=
            exists_analyze_of_perm (h.nodup_iff.mp hpaths) h.symm hsecond
          rw [hfirst] at hagain
          cases hagain

/-- The text of the provider for the models of some files. -/
def providerText (workplace : Workplace) (className projectName : String) (paths : List Path) :
    Except Failure String := do
  let models ← (workplace.analyze paths).result.mapError .analysis
  (Provider.source ⟨models⟩ className projectName).mapError .provider

/-- In whatever order distinct files are analysed, either no provider can be written for their
models, or it is the same text. -/
theorem providerText_of_perm (workplace : Workplace) (className projectName : String)
    (hpaths : paths.Nodup) (h : paths.Perm others) :
    (∃ failure failure', workplace.providerText className projectName paths = .error failure ∧
        workplace.providerText className projectName others = .error failure') ∨
      ∃ text, workplace.providerText className projectName paths = .ok text ∧
        workplace.providerText className projectName others = .ok text := by
  have hagree : Agree (· = ·) (workplace.providerText className projectName paths)
      (workplace.providerText className projectName others) := by
    refine ((agree_analyze hpaths h).mapError _).bind ?_
    rintro models models' ⟨hperm, hnames⟩
    exact (Provider.agree_source hnames hperm className projectName).mapError _
  generalize workplace.providerText className projectName paths = first at hagree
  generalize workplace.providerText className projectName others = second at hagree
  cases hagree with
  | error failure failure' => exact .inl ⟨failure, failure', rfl, rfl⟩
  | @ok text _ heq => exact .inr ⟨text, rfl, by rw [heq]⟩

end Order

open Interpreter.Common

/-- A workplace with two files, each of which declares a model. -/
def pairWorkplace : Workplace where
  disk :=
    ⟨.directory
      [("cat.py", .file (Text.encode "class Cat:\n def to_json(s): 0\n")),
       ("dog.py", .file (Text.encode "class Dog:\n def to_json(s): 0\n"))], [], "/"⟩
  discovery := .standard
  root := ⟨.root, []⟩

def pairPaths : List Path := [⟨.root, ["cat.py"]⟩, ⟨.root, ["dog.py"]⟩]

theorem providerText_of_perm_pairPaths :
    pairPaths.Nodup ∧ pairPaths.Perm pairPaths.reverse ∧
      ∃ text, pairWorkplace.providerText "PetModelProvider" "pet" pairPaths = .ok text ∧
        pairWorkplace.providerText "PetModelProvider" "pet" pairPaths.reverse = .ok text := by
  have hpaths : pairPaths.Nodup := by decide
  have hperm : pairPaths.Perm pairPaths.reverse := (List.reverse_perm _).symm
  have hwritten : (pairWorkplace.providerText "PetModelProvider" "pet" pairPaths).isOk = true := by
    decide +kernel
  refine ⟨hpaths, hperm, ?_⟩
  rcases providerText_of_perm pairWorkplace "PetModelProvider" "pet" hpaths hperm with
    ⟨failure, _, hfailure, -⟩ | htext
  · rw [hfailure] at hwritten
    cases hwritten
  · exact htext

end Workplace

end ProviderGen
