import ProviderGen.Interpreter.Common
import ProviderGen.Proofs.Dotted
import ProviderGen.Proofs.Importable
import ProviderGen.Proofs.Rearrangement
import ProviderGen.Proofs.Regeneration

namespace ProviderGen

/-- A source file and the package file in the directory of the same name: both are the module of
that name. -/
inductive Twins : Path → Path → Prop
  | intro {above : List String} {last : String}
      (hfree : ∀ segment ∈ above ++ [last], Text.isFreeName segment = true)
      (hlast : last ≠ packageFile) :
      Twins ⟨.relative, above ++ [last ++ sourceSuffix]⟩
        ⟨.relative, above ++ [last] ++ [packageFile ++ sourceSuffix]⟩

section Source

variable {path other : Path}

theorem Twins.isFileOf (h : Twins path other) :
    ∃ segments, IsFileOf segments path ∧ IsFileOf segments other := by
  cases h with
  | @intro above last hfree hlast =>
      exact ⟨above ++ [last], .module hfree hlast isSuffix_sourceSuffix,
        .package hfree (by simp) isSuffix_sourceSuffix⟩

theorem Twins.names_length (h : Twins path other) :
    path.names.length < other.names.length := by
  cases h
  simp

theorem isFileOf_both_iff (hpath : isSource path.name)
    (hother : isSource other.name) (hsome : ∃ segments, IsFileOf segments path) :
    (∃ segments, IsFileOf segments path ∧ IsFileOf segments other) ↔
      path = other ∨ Twins path other ∨ Twins other path := by
  constructor
  · rintro ⟨segments, hfile, hfile'⟩
    obtain ⟨-, -, hfree⟩ := hfile.segments_spec
    rcases hfile.of_source hpath with ⟨above, last, rfl, hlast, rfl⟩ | rfl
    · rcases hfile'.of_source hother with ⟨above', last', heq, -, rfl⟩ | rfl
      · obtain ⟨rfl, hlast'⟩ := List.append_inj' heq rfl
        obtain rfl : last = last' := by simpa using hlast'
        exact .inl rfl
      · exact .inr (.inl (.intro hfree hlast))
    · rcases hfile'.of_source hother with ⟨above, last, rfl, hlast, rfl⟩ | rfl
      · exact .inr (.inr (.intro hfree hlast))
      · exact .inl rfl
  · rintro (rfl | h | h)
    · obtain ⟨segments, hfile⟩ := hsome
      exact ⟨segments, hfile, hfile⟩
    · exact h.isFileOf
    · obtain ⟨segments, hfile, hfile'⟩ := h.isFileOf
      exact ⟨segments, hfile', hfile⟩

end Source

theorem Collection.isSource_of_mem_collect {disk : Disk} {discovery : Discovery} {root path : Path}
    {files : List Path} (h : (collect disk discovery root).result = .ok files)
    (hpath : path ∈ files) : ∃ name, path.names.getLast? = some name ∧ isSource name := by
  obtain ⟨place, entries, -, hmem⟩ := mem_collect h
  obtain ⟨found, -, name, ⟨file, content, -, hname⟩, rfl⟩ := (hmem path).mp hpath
  exact ⟨name, by simp, isSource_of_nameOf? hname⟩

namespace Disk

variable {name : String}

theorem getLast?_resolveFrom {root : Node} (hroot : root.LinkFree) (hup : name ≠ "..") {bound : Nat}
    {active : List (List String)} {here front found : List String}
    (h : resolveFrom root bound active here ((front ++ [name]).map Stop.name) = (found, false)) :
    found.getLast? = some name := by
  -- Names before the last one only change where the walk is, so the front is general.
  induction bound generalizing here front with
  | zero => simp [resolveFrom] at h
  | succ bound ih =>
      cases front with
      | nil =>
          rw [List.nil_append, List.map_cons, resolveFrom_name hroot, if_neg hup] at h
          cases bound with
          | zero => simp [resolveFrom] at h
          | succ bound =>
              obtain rfl : here ++ [name] = found := by simpa [resolveFrom] using h
              exact List.getLast?_concat
      | cons first front =>
          rw [List.cons_append, List.map_cons, resolveFrom_name hroot] at h
          exact ih h

theorem getLast?_resolve {disk : Disk} {path file : Path} (hfree : disk.root.LinkFree)
    (hname : path.names.getLast? = some name) (hup : name ≠ "..")
    (h : disk.resolve path = .ok file) : file.names.getLast? = some name := by
  obtain ⟨front, hfront⟩ := List.getLast?_eq_some_iff.mp hname
  rw [resolve_of_linkFree hfree] at h
  split at h
  · cases h
  · obtain rfl := Except.ok.inj h
    have hbound : path.names.length < maxSteps + path.names.length :=
      Nat.lt_add_of_pos_left (by decide)
    have hloops := loops_resolveFrom hfree [] (disk.base path) path.names hbound
    rw [hfront] at hloops ⊢
    exact getLast?_resolveFrom hfree hup (Prod.ext rfl hloops)

end Disk

namespace Workplace

variable {workplace : Workplace} {path : Path} {paths : List Path} {model : Model}
  {models : List Model}

theorem exists_of_importPath {importPath : String}
    (h : workplace.importPath path = .ok importPath) :
    (∃ module, moduleName importPath = .ok module) ∧
      ∃ file names, workplace.disk.resolve path = .ok file ∧ names <:+ file.names ∧
        importPath = (⟨.relative, names⟩ : Path).toString := by
  obtain ⟨root, names, module, hfile, -, rfl, hmodule⟩ := importPath_eq_ok_iff.mp h
  exact ⟨⟨module, hmodule⟩, _, names, hfile, List.suffix_append _ _, rfl⟩

theorem isSource_importPath {name importPath : String} (hfree : workplace.disk.root.LinkFree)
    (hname : path.names.getLast? = some name) (hsource : isSource name)
    (h : workplace.importPath path = .ok importPath) : isSource importPath := by
  obtain ⟨⟨module, hmodule⟩, file, names, hresolve, hnames, rfl⟩ := exists_of_importPath h
  have hup : name ≠ ".." := by
    rintro rfl
    exact absurd hsource (by decide)
  have hlast := Disk.getLast?_resolve hfree hname hup hresolve
  rcases List.eq_nil_or_concat names with rfl | ⟨front, last, rfl⟩
  · -- the path of the import root itself, which has no module name
    have hdot : moduleName "." = .error (.noFileName (.ofString ".")) := by decide
    exact absurd (hdot.symm.trans hmodule) (by simp)
  · obtain ⟨above, hfile⟩ := hnames
    rw [← hfile, List.concat_eq_append, ← List.append_assoc, List.getLast?_concat,
      Option.some.injEq] at hlast
    rw [List.concat_eq_append, hlast]
    exact isSource_toString hsource

theorem importPath_of_mem_modelsOf [Interpreter] (h : workplace.modelsOf path = .ok models)
    (hmodel : model ∈ models) : workplace.importPath path = .ok model.importPath := by
  obtain ⟨outline, importPath, rfl, himport⟩ := exists_detect_of_modelsOf h
  obtain ⟨detected, -, rfl⟩ := List.mem_map.mp hmodel
  exact himport (List.ne_nil_of_mem hmodel)

theorem mem_register {known found : List (Model × Path)}
    (h : register path known models = .ok found) {entry : Model × Path} (hentry : entry ∈ found) :
    entry ∈ known ∨ entry.1 ∈ models ∧ entry.2 = path := by
  induction models generalizing known with
  | nil =>
      obtain rfl := Except.ok.inj h
      exact .inl hentry
  | cons first models ih =>
      unfold register at h
      split at h
      · rcases ih h with hknown | ⟨hmodel, hpath⟩
        · rcases List.mem_append.mp hknown with hknown | hfirst
          · exact .inl hknown
          · obtain rfl := List.mem_singleton.mp hfirst
            exact .inr ⟨List.mem_cons_self .., rfl⟩
        · exact .inr ⟨List.mem_cons_of_mem _ hmodel, hpath⟩
      · split at h
        · exact (ih h).imp_right (And.imp_left (List.mem_cons_of_mem _))
        · cases h

theorem mem_analyzeFrom [Interpreter] {known found : List (Model × Path)}
    (h : (workplace.analyzeFrom known paths).result = .ok found) {entry : Model × Path}
    (hentry : entry ∈ found) :
    entry ∈ known ∨ entry.2 ∈ paths ∧
      ∃ models, workplace.modelsOf entry.2 = .ok models ∧ entry.1 ∈ models := by
  induction paths generalizing known with
  | nil =>
      obtain rfl : known = found := by simpa [analyzeFrom] using h
      exact .inl hentry
  | cons path paths ih =>
      simp only [analyzeFrom, Logged.bind_eq, Logged.result_andThen_eq_ok, Logged.ofExcept] at h
      obtain ⟨text, htext, models, hmodels, between, hregister, hrest⟩ := h
      rcases ih hrest with hbetween | ⟨hpath, hdeclared⟩
      · rcases mem_register hregister hbetween with hknown | ⟨hmodel, hpath⟩
        · exact .inl hknown
        · refine .inr ⟨hpath ▸ List.mem_cons_self .., models, ?_, hmodel⟩
          rw [hpath, modelsOf, htext]
          exact hmodels
      · exact .inr ⟨List.mem_cons_of_mem _ hpath, hdeclared⟩

theorem exists_modelsOf_of_mem_analyze [Interpreter]
    (h : (workplace.analyze paths).result = .ok models)
    (hmodel : model ∈ models) :
    ∃ path ∈ paths, ∃ declared, workplace.modelsOf path = .ok declared ∧ model ∈ declared := by
  simp only [analyze, Logged.bind_eq, Logged.result_andThen_eq_ok, Logged.pure_eq,
    Except.ok.injEq] at h
  obtain ⟨found, hfound, rfl⟩ := h
  obtain ⟨entry, hentry, rfl⟩ := List.mem_map.mp hmodel
  obtain hknown | ⟨hpath, hdeclared⟩ := mem_analyzeFrom hfound hentry
  · cases hknown
  · exact ⟨entry.2, hpath, hdeclared⟩

theorem exists_importPath_of_mem_analyze [Interpreter]
    (h : (workplace.analyze paths).result = .ok models)
    (hmodel : model ∈ models) :
    ∃ path ∈ paths, workplace.importPath path = .ok model.importPath := by
  obtain ⟨path, hpath, declared, hdeclared, hmem⟩ := exists_modelsOf_of_mem_analyze h hmodel
  exact ⟨path, hpath, importPath_of_mem_modelsOf hdeclared hmem⟩

end Workplace

/-- The path that a model is imported from. -/
def Model.file (model : Model) : Path :=
  .ofString model.importPath

/-- Import lines for models: one for each module, in the order of their names, with the names of the
models that files of the module declare. -/
structure ImportsByModule (models : List Model) (imports : List (String × List String)) : Prop where
  ordered : (imports.map Prod.fst).Pairwise (· < ·)
  exists_line : ∀ model ∈ models, ∃ line ∈ imports, model.module = .ok line.1
  mem_iff : ∀ line ∈ imports, ∃ segments, line.1 = ".".intercalate segments ∧
    ∀ name, name ∈ line.2 ↔ ∃ model ∈ models, IsFileOf segments model.file ∧ model.name = name

namespace Registry

variable {models : List Model} {imports : List (String × List String)}

theorem importsByModule (h : Registry.imports ⟨models⟩ = .ok imports) :
    ImportsByModule models imports := by
  obtain ⟨pairs, rfl, hmodules, hpair⟩ := exists_pairs h
  have hmodule : ∀ module, module ∈ (grouped pairs).map Prod.fst ↔
      ∃ model ∈ models, model.module = .ok module := by
    intro module
    simp [modules_grouped, Text.mem_sortOnce, hpair]
  constructor
  · rw [modules_grouped]
    exact Text.pairwise_sortOnce _
  · intro model hmodel
    obtain ⟨module, hfound⟩ := hmodules model hmodel
    obtain ⟨line, hline, rfl⟩ := List.mem_map.mp ((hmodule module).mpr ⟨model, hmodel, hfound⟩)
    exact ⟨line, hline, hfound⟩
  · intro line hline
    obtain ⟨model, -, hfile⟩ := (hmodule line.1).mp (List.mem_map_of_mem hline)
    obtain ⟨segments, hsegments, heq⟩ := moduleName_eq_ok_iff.mp hfile
    refine ⟨segments, heq, ?_⟩
    intro name
    simp only [mem_grouped hline, hpair, heq, Model.module, Model.file,
      moduleName_eq_intercalate_iff hsegments]

end Registry

theorem Provider.source_eq_ok {registry : Registry} {className projectName text : String}
    (h : source registry className projectName = .ok text) :
    ∃ imports, registry.imports = .ok imports ∧
      text = textWith registry className projectName imports := by
  rw [source_eq] at h
  split at h
  · cases h
  split at h
  · cases h
  obtain ⟨imports, himports, h⟩ := bind_eq_ok_iff.mp h
  refine ⟨imports, ?_, (Except.ok.inj h).symm⟩
  cases hresult : registry.imports with
  | error error => simp [hresult] at himports
  | ok found => simpa [hresult] using himports

namespace Generation

variable {project : Project} {output : Option String} {session after : Session}
  {generated : Generated}

/-- The import lines of the provider that is written: each has the names from the files of one
module, and two models are in one module exactly if they are from files of one module. Without links
these are the same file, or a source file and the package file in the directory of the same name. -/
theorem importsByModule_of_generate [Interpreter] (hlog : session.log = none)
    (h : generate project output session = (.ok generated, after)) :
    ∃ imports,
      session.disk.replaceFile generated.path (Text.encode
        (Provider.textWith ⟨generated.models⟩ generated.className project.name imports)) =
          (after.disk, .ok ()) ∧
      ImportsByModule generated.models imports ∧
      (∀ first ∈ generated.models, ∀ second ∈ generated.models,
        (first.module = second.module ↔
          ∃ segments, IsFileOf segments first.file ∧ IsFileOf segments second.file)) ∧
      (session.disk.root.LinkFree →
        ∀ first ∈ generated.models, ∀ second ∈ generated.models,
          (first.module = second.module ↔ first.file = second.file ∨
            Twins first.file second.file ∨ Twins second.file first.file)) := by
  obtain ⟨text, hplan, hreplace⟩ := plan_of_generate hlog h
  obtain ⟨files, hfiles, hmodels, hsource, -, -⟩ := plan_eq_ok_iff.mp hplan
  have himport : ∀ model ∈ generated.models, ∃ path ∈ files,
      Workplace.importPath ⟨session.disk, project.discovery, project.sourceDirectory⟩ path =
        .ok model.importPath :=
    fun model hmodel => Workplace.exists_importPath_of_mem_analyze hmodels hmodel
  have hmodule : ∀ model ∈ generated.models, ∃ module, model.module = .ok module := by
    intro model hmodel
    obtain ⟨path, -, hpath⟩ := himport model hmodel
    exact (Workplace.exists_of_importPath hpath).1
  obtain ⟨imports, himports, htext⟩ := Provider.source_eq_ok hsource
  refine ⟨imports, htext ▸ hreplace, Registry.importsByModule himports, ?_, ?_⟩
  · intro first hfirst second _
    obtain ⟨module, hfound⟩ := hmodule first hfirst
    exact moduleName_eq_iff hfound
  · intro hfree first hfirst second hsecond
    -- Only source files are collected, and without links an import path ends as its file does.
    have hends : ∀ model ∈ generated.models, isSource model.file.name := by
      intro model hmodel
      obtain ⟨path, hmem, hpath⟩ := himport model hmodel
      obtain ⟨name, hname, hends⟩ := Collection.isSource_of_mem_collect hfiles hmem
      exact isSource_name_ofString (Workplace.isSource_importPath hfree hname hends hpath)
    obtain ⟨module, hfound⟩ := hmodule first hfirst
    obtain ⟨segments, hfile, -⟩ := moduleName_eq_ok_iff.mp hfound
    exact (moduleName_eq_iff hfound).trans
      (isFileOf_both_iff (hends first hfirst) (hends second hsecond) ⟨segments, hfile⟩)

open Interpreter.Common

/-- A disk with a project that has a source file and a directory of the same name with a package
file, each of which declares a model. -/
def twinDisk : Disk where
  root := .directory
    [("app", .directory
      [("pkg", .directory
        [("__init__.py", .file (Text.encode "class B:\n def to_json(s): 0\n"))]),
       ("pkg.py", .file (Text.encode "class A:\n def to_json(s): 0\n"))])]
  current := ["app"]
  home := "/home"

def fileModel : Model := ⟨"A", "pkg.py", .ofMethod "to_json", .none⟩

def packageModel : Model := ⟨"B", "pkg/__init__.py", .ofMethod "to_json", .none⟩

def twinGenerated : Generated where
  path := ⟨.root, ["app", providerFile]⟩
  models := [fileModel, packageModel]
  className := "AppModelProvider"

theorem load_twinDisk : Project.load twinDisk ⟨.root, ["app"]⟩ = .ok quietProject := rfl

theorem linkFree_twinDisk : twinDisk.root.LinkFree := by
  have hpackage : (Node.directory [("__init__.py",
      .file (Text.encode "class B:\n def to_json(s): 0\n"))]).LinkFree :=
    .directory (by simpa using .file _)
  have happ : (Node.directory
      [("pkg", .directory
        [("__init__.py", .file (Text.encode "class B:\n def to_json(s): 0\n"))]),
       ("pkg.py", .file (Text.encode "class A:\n def to_json(s): 0\n"))]).LinkFree :=
    .directory (by simpa using ⟨hpackage, .file _⟩)
  exact .directory (by simpa using happ)

theorem generate_twinDisk : generate quietProject none (.start twinDisk) =
    (.ok twinGenerated, (generate quietProject none (.start twinDisk)).2) :=
  Prod.fst_eq_iff.mp (by decide +kernel)

theorem importsByModule_of_generate_twinDisk :
    generate quietProject none (.start twinDisk) =
        (.ok twinGenerated, (generate quietProject none (.start twinDisk)).2) ∧
      twinDisk.root.LinkFree ∧ fileModel ∈ twinGenerated.models ∧
      packageModel ∈ twinGenerated.models ∧
      (∃ imports,
        twinDisk.replaceFile twinGenerated.path (Text.encode
          (Provider.textWith ⟨twinGenerated.models⟩ "AppModelProvider" "app" imports)) =
            ((generate quietProject none (.start twinDisk)).2.disk, .ok ()) ∧
        ImportsByModule twinGenerated.models imports) ∧
      fileModel.module = packageModel.module ∧ Twins fileModel.file packageModel.file := by
  have hfile : fileModel ∈ twinGenerated.models := by simp [twinGenerated]
  have hpackage : packageModel ∈ twinGenerated.models := by simp [twinGenerated]
  have hmodule : fileModel.module = packageModel.module := by decide
  obtain ⟨imports, hwritten, himports, -, htwins⟩ := importsByModule_of_generate rfl generate_twinDisk
  refine ⟨generate_twinDisk, linkFree_twinDisk, hfile, hpackage, ⟨imports, hwritten, himports⟩,
    hmodule, ?_⟩
  rcases (htwins linkFree_twinDisk _ hfile _ hpackage).mp hmodule with heq | htwins | htwins
  · exact absurd heq (by decide)
  · exact htwins
  · -- The other way around the source file would be the package file.
    exact absurd htwins.names_length (by decide)

/-- Not all models of a provider that are imported from different paths are in different
modules. -/
theorem not_forall_module_ne :
    ¬ ∀ (disk : Disk) (path : Path) (project : Project) (generated : Generated) (after : Session),
      Project.load disk path = .ok project →
      generate project none (.start disk) = (.ok generated, after) →
      ∀ first ∈ generated.models, ∀ second ∈ generated.models,
        first.importPath ≠ second.importPath → first.module ≠ second.module := by
  intro h
  refine h twinDisk ⟨.root, ["app"]⟩ quietProject twinGenerated _ load_twinDisk generate_twinDisk
    fileModel (by simp [twinGenerated]) packageModel (by simp [twinGenerated]) (by decide) ?_
  decide

end Generation

end ProviderGen
