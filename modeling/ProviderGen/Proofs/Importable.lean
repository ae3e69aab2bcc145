import ProviderGen.Interpreter.Common
import ProviderGen.Proofs.Declared
import ProviderGen.Proofs.Loading

namespace ProviderGen

theorem Path.relativeTo?_eq_some_iff {path base relative : Path} :
    path.relativeTo? base = some relative ↔
      ∃ names, path = ⟨base.anchor, base.names ++ names⟩ ∧ relative = ⟨.relative, names⟩ := by
  obtain ⟨anchor, names⟩ := path
  simp only [Path.relativeTo?, Bool.and_eq_true, decide_eq_true_eq, List.isPrefixOf_iff_prefix,
    Option.ite_none_right_eq_some, Option.some.injEq, Path.mk.injEq]
  constructor
  · rintro ⟨⟨rfl, added, rfl⟩, rfl⟩
    exact ⟨added, ⟨rfl, rfl⟩, by simp⟩
  · rintro ⟨added, ⟨rfl, rfl⟩, rfl⟩
    exact ⟨⟨rfl, List.prefix_append _ _⟩, by simp⟩

theorem Path.relativeTo?_eq_none_iff {path base : Path} :
    path.relativeTo? base = none ↔ ∀ names, path ≠ ⟨base.anchor, base.names ++ names⟩ := by
  simp only [Option.eq_none_iff_forall_ne_some, ne_eq, relativeTo?_eq_some_iff, not_exists, not_and]
  constructor
  · intro h names hpath
    exact h ⟨.relative, names⟩ names hpath rfl
  · rintro h relative names hpath -
    exact h names hpath

namespace Detection

open Source

variable {discovery : Discovery} {outline : Outline}

/-- Some public class of an outline is a model: its last statement holds an eligible method. -/
def DeclaresModel (discovery : Discovery) (outline : Outline) : Prop :=
  ∃ name, Public name ∧ ∃ body, LastClass outline.statements name body ∧
    ∃ role method, Eligible (discovery.keywords role) role body method

theorem detect_ne_nil_iff : detect discovery outline ≠ [] ↔ DeclaresModel discovery outline := by
  constructor
  · intro h
    obtain ⟨detected, hmem⟩ := List.exists_mem_of_ne_nil _ h
    obtain ⟨body, hpublic, hlast, -, heligible⟩ := mem_detect.mp hmem
    exact ⟨detected.name, hpublic, body, hlast, heligible⟩
  · rintro ⟨name, hdeclared⟩ hnil
    have hnames := (Workplace.declares_detect discovery outline "").exists_iff name
    obtain ⟨model, hmodel, -⟩ := hnames.mpr hdeclared
    simp [hnil] at hmodel

end Detection

namespace Workplace

open Source Detection

variable {workplace : Workplace} {path : Path} {text : String} {outline : Outline}
  {error : AnalysisError}

/-- Why a file has no import path: it or the import root cannot be resolved, it lies outside the root,
or its path below the root has no module name. -/
inductive Unimportable (workplace : Workplace) (path : Path) : AnalysisError → Prop
  | fileLoops {loop : Path} (hfile : workplace.disk.resolve path = .error (.linkLoop loop)) :
      Unimportable workplace path (.linkLoop loop)
  | nullInFile (hfile : workplace.disk.resolve path = .error .nullCharacter) :
      Unimportable workplace path (.flawed path (.outside workplace.root))
  | rootLoops {file loop : Path} (hfile : workplace.disk.resolve path = .ok file)
      (hroot : workplace.disk.resolve workplace.root = .error (.linkLoop loop)) :
      Unimportable workplace path (.linkLoop loop)
  | nullInRoot {file : Path} (hfile : workplace.disk.resolve path = .ok file)
      (hroot : workplace.disk.resolve workplace.root = .error .nullCharacter) :
      Unimportable workplace path (.flawed path (.outside workplace.root))
  | outside {file root : Path} (hfile : workplace.disk.resolve path = .ok file)
      (hroot : workplace.disk.resolve workplace.root = .ok root)
      (hout : ∀ names, file ≠ ⟨root.anchor, root.names ++ names⟩) :
      Unimportable workplace path (.flawed path (.outside workplace.root))
  | notImportable {root : Path} {names : List String} {error : ModuleNameError}
      (hfile : workplace.disk.resolve path = .ok ⟨root.anchor, root.names ++ names⟩)
      (hroot : workplace.disk.resolve workplace.root = .ok root)
      (hmodule : moduleName (⟨.relative, names⟩ : Path).toString = .error error) :
      Unimportable workplace path (.flawed path (.notImportable error))

theorem resolve_eq_ok_iff {file resolved : Path} :
    workplace.resolve file path = .ok resolved ↔ workplace.disk.resolve path = .ok resolved := by
  unfold Workplace.resolve
  split
  · next heq => simp [heq]
  · next heq => simp [heq]
  · next heq => simp [heq]

theorem resolve_eq_error_iff {file : Path} : workplace.resolve file path = .error error ↔
    (∃ loop, workplace.disk.resolve path = .error (.linkLoop loop) ∧ error = .linkLoop loop) ∨
      workplace.disk.resolve path = .error .nullCharacter ∧
        error = .flawed file (.outside workplace.root) := by
  unfold Workplace.resolve
  split
  · next heq => simp [heq]
  · next heq => simp [heq, eq_comm]
  · next heq => simp [heq, eq_comm]

theorem importPath_eq_ok_iff {importPath : String} :
    workplace.importPath path = .ok importPath ↔ ∃ root names module,
      workplace.disk.resolve path = .ok ⟨root.anchor, root.names ++ names⟩ ∧
        workplace.disk.resolve workplace.root = .ok root ∧
        importPath = (⟨.relative, names⟩ : Path).toString ∧ moduleName importPath = .ok module := by
  simp only [Workplace.importPath, bind_eq_ok_iff, resolve_eq_ok_iff]
  constructor
  · rintro ⟨file, hfile, root, hroot, h⟩
    split at h
    · cases h
    next relative hrelative =>
      obtain ⟨names, rfl, rfl⟩ := Path.relativeTo?_eq_some_iff.mp hrelative
      split at h
      · cases h
      next module hmodule =>
        obtain rfl := Except.ok.inj h
        exact ⟨root, names, module, hfile, hroot, rfl, hmodule⟩
  · rintro ⟨root, names, module, hfile, hroot, rfl, hmodule⟩
    have hrelative : (⟨root.anchor, root.names ++ names⟩ : Path).relativeTo? root =
        some ⟨.relative, names⟩ := Path.relativeTo?_eq_some_iff.mpr ⟨names, rfl, rfl⟩
    exact ⟨_, hfile, root, hroot, by simp only [hrelative, hmodule]⟩

theorem importPath_eq_error_iff :
    workplace.importPath path = .error error ↔ Unimportable workplace path error := by
  simp only [importPath, bind_eq_error_iff, resolve_eq_error_iff, resolve_eq_ok_iff]
  constructor
  · rintro ((⟨loop, hfile, rfl⟩ | ⟨hfile, rfl⟩) |
      ⟨file, hfile, (⟨loop, hroot, rfl⟩ | ⟨hroot, rfl⟩) | ⟨root, hroot, h⟩⟩)
    · exact .fileLoops hfile
    · exact .nullInFile hfile
    · exact .rootLoops hfile hroot
    · exact .nullInRoot hfile hroot
    · cases hrelative : file.relativeTo? root with
      | none =>
          rw [hrelative] at h
          obtain rfl := Except.error.inj h
          exact .outside hfile hroot (Path.relativeTo?_eq_none_iff.mp hrelative)
      | some relative =>
          obtain ⟨names, rfl, rfl⟩ := Path.relativeTo?_eq_some_iff.mp hrelative
          simp only [hrelative] at h
          split at h
          next hmodule =>
            obtain rfl := Except.error.inj h
            exact .notImportable hfile hroot hmodule
          next => cases h
  · intro h
    cases h with
    | fileLoops hfile => exact .inl (.inl ⟨_, hfile, rfl⟩)
    | nullInFile hfile => exact .inl (.inr ⟨hfile, rfl⟩)
    | rootLoops hfile hroot => exact .inr ⟨_, hfile, .inl (.inl ⟨_, hroot, rfl⟩)⟩
    | nullInRoot hfile hroot => exact .inr ⟨_, hfile, .inl (.inr ⟨hroot, rfl⟩)⟩
    | outside hfile hroot hout =>
        have hrelative := Path.relativeTo?_eq_none_iff.mpr hout
        exact .inr ⟨_, hfile, .inr ⟨_, hroot, by simp only [hrelative]⟩⟩
    | @notImportable root names error hfile hroot hmodule =>
        have hrelative : (⟨root.anchor, root.names ++ names⟩ : Path).relativeTo? root =
            some ⟨.relative, names⟩ := Path.relativeTo?_eq_some_iff.mpr ⟨names, rfl, rfl⟩
        exact .inr ⟨_, hfile, .inr ⟨_, hroot, by simp only [hrelative, hmodule]⟩⟩

section Texts

variable [Interpreter]

theorem analyzeText_eq_error_iff (houtline : Source.outline text = .ok outline) :
    (workplace.analyzeText path text).result = .error error ↔
      DeclaresModel workplace.discovery outline ∧ Unimportable workplace path error := by
  rw [result_analyzeText, outlineOf_eq_ok_iff.mpr houtline, ← detect_ne_nil_iff,
    ← importPath_eq_error_iff]
  by_cases hdetect : detect workplace.discovery outline = []
  · simp [bind, Except.bind, hdetect, pure, Except.pure]
  · cases workplace.importPath path <;> simp [bind, Except.bind, hdetect, pure, Except.pure]

theorem analyzeText_of_not_declares (houtline : Source.outline text = .ok outline)
    (h : ¬ DeclaresModel workplace.discovery outline) :
    (workplace.analyzeText path text).result = .ok [] := by
  have hdetect := not_ne_iff.mp (mt detect_ne_nil_iff.mp h)
  rw [result_analyzeText, outlineOf_eq_ok_iff.mpr houtline]
  simp [bind, Except.bind, hdetect, pure, Except.pure]

omit [Interpreter] in
theorem Unimportable.flawed_iff (h : Unimportable workplace path error) :
    (∃ flaw, error = .flawed path flaw) ↔
      (∀ loop, workplace.disk.resolve path ≠ .error (.linkLoop loop)) ∧
        ∀ file loop, workplace.disk.resolve path = .ok file →
          workplace.disk.resolve workplace.root ≠ .error (.linkLoop loop) := by
  cases h with
  | fileLoops hfile => simp [hfile]
  | nullInFile hfile => simp [hfile]
  | rootLoops hfile hroot => simp [hfile, hroot]
  | nullInRoot hfile hroot => simp [hfile, hroot]
  | outside hfile hroot hout => simp [hfile, hroot]
  | notImportable hfile hroot hmodule => simp [hfile, hroot]

/-- What the path of a file has to do with the analysis of its text: nothing if no model is declared,
and otherwise the analysis fails exactly if the file has no import path. The error then names the file,
unless a link on the way to it or to the import root leads back to itself. -/
theorem analyzeText_checks_path (houtline : Source.outline text = .ok outline) :
    (∀ error, (workplace.analyzeText path text).result = .error error ↔
      DeclaresModel workplace.discovery outline ∧ Unimportable workplace path error) ∧
    (∀ error, (workplace.analyzeText path text).result = .error error →
      ((∃ flaw, error = .flawed path flaw) ↔
        (∀ loop, workplace.disk.resolve path ≠ .error (.linkLoop loop)) ∧
          ∀ file loop, workplace.disk.resolve path = .ok file →
            workplace.disk.resolve workplace.root ≠ .error (.linkLoop loop))) ∧
    (¬ DeclaresModel workplace.discovery outline →
      (workplace.analyzeText path text).result = .ok []) := by
  refine ⟨?_, ?_, ?_⟩
  · intro error
    exact analyzeText_eq_error_iff houtline
  · intro error h
    exact ((analyzeText_eq_error_iff houtline).mp h).2.flawed_iff
  · exact analyzeText_of_not_declares houtline

end Texts

open Interpreter.Common

/-- A text that declares one model. -/
def petText : String := "class Pet:\n def to_json(self): 0\n"

theorem exists_outline_petText :
    ∃ outline, Source.outline petText = .ok outline ∧ DeclaresModel .standard outline := by
  have hfound : (Source.outline petText).toOption.any (fun outline =>
      detect .standard outline ≠ []) = true := by
    decide +kernel
  obtain ⟨outline, houtline, hdetect⟩ := exists_of_any_toOption hfound
  exact ⟨outline, houtline, detect_ne_nil_iff.mp (of_decide_eq_true hdetect)⟩

theorem analyzeText_checks_path_petText :
    ∃ outline, Source.outline petText = .ok outline ∧
      DeclaresModel emptyWorkplace.discovery outline ∧
      (emptyWorkplace.analyzeText ⟨.root, ["api-v1", "pet.py"]⟩ petText).result =
        .error (.flawed ⟨.root, ["api-v1", "pet.py"]⟩
          (.notImportable (.notImportable "api-v1/pet.py" "api-v1"))) := by
  obtain ⟨outline, houtline, hdeclares⟩ := exists_outline_petText
  have himport : emptyWorkplace.importPath ⟨.root, ["api-v1", "pet.py"]⟩ =
      .error (.flawed ⟨.root, ["api-v1", "pet.py"]⟩
        (.notImportable (.notImportable "api-v1/pet.py" "api-v1"))) := by
    decide +kernel
  exact ⟨outline, houtline, hdeclares,
    ((analyzeText_checks_path houtline).1 _).mpr ⟨hdeclares, importPath_eq_error_iff.mp himport⟩⟩

/-- A workplace whose root is a link to itself. -/
def loopWorkplace : Workplace :=
  ⟨⟨.directory [("loop", .link "loop")], [], "/"⟩, .standard, ⟨.root, ["loop"]⟩⟩

/-- Not every failure of a text that can be parsed names its file. -/
theorem not_forall_analyzeText_flawed :
    ¬ ∀ (workplace : Workplace) (path : Path) (text : String) (outline : Outline)
        (error : AnalysisError), Source.outline text = .ok outline →
      (workplace.analyzeText path text).result = .error error →
        ∃ flaw, error = .flawed path flaw := by
  intro h
  obtain ⟨outline, houtline, hdeclares⟩ := exists_outline_petText
  have himport : loopWorkplace.importPath ⟨.root, ["m.py"]⟩ = .error (.linkLoop ⟨.root, ["loop"]⟩) := by
    decide +kernel
  have hresult := (analyzeText_eq_error_iff houtline).mpr
    ⟨hdeclares, importPath_eq_error_iff.mp himport⟩
  obtain ⟨flaw, hflaw⟩ := h loopWorkplace _ petText outline _ houtline hresult
  cases hflaw

end Workplace

end ProviderGen
