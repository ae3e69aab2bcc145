import ProviderGen.Interpreter.Common
import ProviderGen.Proofs.Failing

namespace ProviderGen

namespace Workplace

variable {workplace : Workplace} {declared : Path → List Model} {path owner : Path}
  {seen paths : List Path} {known : List (Model × Path)} {models : List Model} {name : String}

/-- A file declares a model of a name that another file declares, too. -/
def Clash (declared : Path → List Model) (path owner : Path) (name : String) : Prop :=
  owner ≠ path ∧ name ∈ (declared path).map Model.name ∧ name ∈ (declared owner).map Model.name

/-- No two of some files declare models of one name. -/
def ClashFree (declared : Path → List Model) (paths : List Path) : Prop :=
  ∀ path ∈ paths, ∀ owner ∈ paths, ∀ name, ¬ Clash declared path owner name

/-- The models of files, each file taken once, and each model with its file. -/
def entriesOf (declared : Path → List Model) (paths : List Path) : List (Model × Path) :=
  paths.eraseDups.flatMap fun path => (declared path).map (·, path)

theorem mem_entriesOf {entry : Model × Path} :
    entry ∈ entriesOf declared paths ↔ entry.2 ∈ paths ∧ entry.1 ∈ declared entry.2 := by
  obtain ⟨model, owner⟩ := entry
  simp only [entriesOf, List.mem_flatMap, List.mem_eraseDups, List.mem_map, Prod.mk.injEq]
  constructor
  · rintro ⟨path, hpath, other, hother, rfl, rfl⟩
    exact ⟨hpath, hother⟩
  · rintro ⟨hpath, hmodel⟩
    exact ⟨owner, hpath, model, hmodel, rfl, rfl⟩

theorem entriesOf_concat_of_mem (h : path ∈ seen) :
    entriesOf declared (seen ++ [path]) = entriesOf declared seen := by
  simp [entriesOf, List.eraseDups_append, List.removeAll, h]

theorem entriesOf_concat_of_not_mem (h : path ∉ seen) :
    entriesOf declared (seen ++ [path]) =
      entriesOf declared seen ++ (declared path).map (·, path) := by
  simp [entriesOf, List.eraseDups_append, List.removeAll, h, List.eraseDups_cons]

theorem map_fst_entriesOf :
    (entriesOf declared paths).map Prod.fst = paths.eraseDups.flatMap declared := by
  simp [entriesOf, List.map_flatMap, Function.comp_def]

theorem Clash.symm (h : Clash declared path owner name) : Clash declared owner path name :=
  ⟨h.1.symm, h.2.2, h.2.1⟩

theorem ClashFree.of_subset (h : ClashFree declared paths) (hsubset : seen ⊆ paths) :
    ClashFree declared seen :=
  fun path hpath owner howner => h path (hsubset hpath) owner (hsubset howner)

theorem clashFree_concat : ClashFree declared (seen ++ [path]) ↔
    ClashFree declared seen ∧ ∀ owner ∈ seen, ∀ name, ¬ Clash declared path owner name := by
  constructor
  · intro h
    exact ⟨h.of_subset (List.subset_append_left _ _), fun owner howner =>
      h path (by simp) owner (List.mem_append_left _ howner)⟩
  · rintro ⟨hseen, hpath⟩ first hfirst second hsecond name hclash
    rcases List.mem_append.mp hfirst with hmem | hmem <;>
      rcases List.mem_append.mp hsecond with hmem' | hmem'
    · exact hseen first hmem second hmem' name hclash
    · exact hpath first hmem name (List.mem_singleton.mp hmem' ▸ hclash.symm)
    · exact hpath second hmem' name (List.mem_singleton.mp hmem ▸ hclash)
    · exact hclash.1 ((List.mem_singleton.mp hmem').trans (List.mem_singleton.mp hmem).symm)

theorem nodup_entriesOf_iff (hnames : ∀ path ∈ paths, ((declared path).map Model.name).Nodup) :
    (entryNames (entriesOf declared paths)).Nodup ↔ ClashFree declared paths := by
  induction paths using List.reverseRecOn with
  | nil => simp [entryNames, entriesOf, ClashFree]
  | append_singleton seen path ih =>
      have hseen := ih fun other hother => hnames other (List.mem_append_left _ hother)
      by_cases hpath : path ∈ seen
      · rw [entriesOf_concat_of_mem hpath, hseen, clashFree_concat]
        exact (and_iff_left_of_imp fun h owner howner => h path hpath owner howner).symm
      · rw [entriesOf_concat_of_not_mem hpath, clashFree_concat, ← hseen, entryNames,
          List.map_append, List.nodup_append]
        refine and_congr_right fun _ => ?_
        simp only [List.map_map, Function.comp_def, hnames path (by simp), true_and]
        constructor
        · rintro h owner howner name ⟨-, hname, hother⟩
          obtain ⟨model, hmodel, rfl⟩ := List.mem_map.mp hother
          exact h _ (List.mem_map.mpr ⟨(model, owner), mem_entriesOf.mpr ⟨howner, hmodel⟩, rfl⟩) _
            hname rfl
        · rintro h _ hname other hother rfl
          obtain ⟨⟨model, owner⟩, hentry, rfl⟩ := List.mem_map.mp hname
          obtain ⟨howner, hmodel⟩ := mem_entriesOf.mp hentry
          refine h owner howner model.name ⟨?_, hother, List.mem_map_of_mem hmodel⟩
          rintro rfl
          exact hpath howner

theorem exists_of_register_eq_error {error : AnalysisError}
    (h : register path known models = .error error) :
    ∃ model ∈ models, ∃ entry ∈ known, entry.2 ≠ path ∧ entry.1.name = model.name ∧
      error = .flawed path (.alreadyDeclared model.name entry.2) := by
  induction models generalizing known with
  | nil => cases h
  | cons model models ih =>
      unfold register at h
      cases hfind : known.find? fun entry => entry.1.name = model.name with
      | none =>
          rw [hfind] at h
          obtain ⟨other, hother, entry, hentry, hpath, hname, rfl⟩ := ih h
          rcases List.mem_append.mp hentry with hentry | hentry
          · exact ⟨other, List.mem_cons_of_mem _ hother, entry, hentry, hpath, hname, rfl⟩
          · obtain rfl := List.mem_singleton.mp hentry
            exact absurd rfl hpath
      | some entry =>
          simp only [hfind] at h
          split at h
          · obtain ⟨other, hother, hrest⟩ := ih h
            exact ⟨other, List.mem_cons_of_mem _ hother, hrest⟩
          next hpath =>
            refine ⟨model, List.mem_cons_self .., entry, List.mem_of_find?_eq_some hfind, hpath, ?_,
              (Except.error.inj h).symm⟩
            simpa using List.find?_some hfind

theorem register_of_known (hknown : (entryNames known).Nodup)
    (h : ∀ model ∈ models, (model, path) ∈ known) : register path known models = .ok known := by
  induction models with
  | nil => rfl
  | cons model models ih =>
      obtain ⟨hmodel, hmodels⟩ := List.forall_mem_cons.mp h
      unfold register
      cases hfind : known.find? fun entry => entry.1.name = model.name with
      | none => simpa using List.find?_eq_none.mp hfind _ hmodel
      | some entry =>
          have hname : entry.1.name = model.name := by simpa using List.find?_some hfind
          obtain rfl : entry = (model, path) :=
            List.inj_on_of_nodup_map hknown (List.mem_of_find?_eq_some hfind) hmodel hname
          simpa using ih hmodels

theorem register_step (hnames : ∀ other ∈ seen ++ [path], ((declared other).map Model.name).Nodup)
    (hseen : ClashFree declared seen) :
    (register path (entriesOf declared seen) (declared path) =
        .ok (entriesOf declared (seen ++ [path])) ∧ ClashFree declared (seen ++ [path])) ∨
      ∃ owner ∈ seen, ∃ name, Clash declared path owner name ∧
        register path (entriesOf declared seen) (declared path) =
          .error (.flawed path (.alreadyDeclared name owner)) := by
  have hknown := (nodup_entriesOf_iff fun other hother =>
    hnames other (List.mem_append_left _ hother)).mpr hseen
  by_cases hpath : path ∈ seen
  · left
    rw [entriesOf_concat_of_mem hpath, clashFree_concat]
    exact ⟨register_of_known hknown fun model hmodel => mem_entriesOf.mpr ⟨hpath, hmodel⟩, hseen,
      hseen path hpath⟩
  · cases hregister : register path (entriesOf declared seen) (declared path) with
    | ok found =>
        have hnew : ∀ entry ∈ entriesOf declared seen, entry.2 = path →
            entry.1.name ∉ (declared path).map Model.name := by
          rintro entry hentry rfl
          exact absurd (mem_entriesOf.mp hentry).1 hpath
        obtain ⟨rfl, hfound⟩ :=
          (register_eq_ok_iff (hnames path (by simp)) hknown hnew).mp hregister
        rw [← entriesOf_concat_of_not_mem hpath] at hfound ⊢
        exact .inl ⟨rfl, (nodup_entriesOf_iff hnames).mp hfound⟩
    | error error =>
        obtain ⟨model, hmodel, ⟨other, owner⟩, hentry, howner, hname, rfl⟩ :=
          exists_of_register_eq_error hregister
        obtain ⟨hmem, hother⟩ := mem_entriesOf.mp hentry
        exact .inr ⟨owner, hmem, model.name, ⟨howner, List.mem_map_of_mem hmodel,
          hname ▸ List.mem_map_of_mem hother⟩, rfl⟩

/-- What analysing files comes to that can be analysed one by one, after files that do not clash:
their models are added, or one of them is the first to clash with a file before it. -/
theorem analyzeFrom_entriesOf [Interpreter]
    (hdeclared : ∀ path ∈ seen ++ paths, workplace.modelsOf path = .ok (declared path))
    (hseen : ClashFree declared seen) :
    ((workplace.analyzeFrom (entriesOf declared seen) paths).result =
        .ok (entriesOf declared (seen ++ paths)) ∧ ClashFree declared (seen ++ paths)) ∨
      ∃ before path after, paths = before ++ path :: after ∧
        ClashFree declared (seen ++ before) ∧
        ∃ owner ∈ seen ++ before, ∃ name, Clash declared path owner name ∧
          (workplace.analyzeFrom (entriesOf declared seen) paths).result =
            .error (.flawed path (.alreadyDeclared name owner)) := by
  -- The files that were analysed grow from file to file, so they are general in the induction.
  induction paths generalizing seen with
  | nil => exact .inl ⟨by simp [analyzeFrom], by simpa using hseen⟩
  | cons path paths ih =>
      have hconcat : seen ++ path :: paths = seen ++ [path] ++ paths := by simp
      rw [hconcat] at hdeclared
      have hstep := register_step (fun other hother =>
        nodup_modelsOf (hdeclared other (List.mem_append_left _ hother))) hseen
      have hfirst : (workplace.analyzeFrom (entriesOf declared seen) (path :: paths)).result = (do
          let known ← register path (entriesOf declared seen) (declared path)
          (workplace.analyzeFrom known paths).result) := by
        rw [result_analyzeFrom_cons, hdeclared path (by simp)]
        rfl
      rw [hfirst, hconcat]
      rcases hstep with ⟨hregister, hnext⟩ | ⟨owner, howner, name, hclash, hregister⟩
      · rw [hregister]
        rcases ih hdeclared hnext with hok | ⟨before, other, after, rfl, hbefore, owner, howner, hrest⟩
        · exact .inl hok
        · rw [List.append_assoc] at hbefore howner
          exact .inr ⟨path :: before, other, after, rfl, hbefore, owner, howner, hrest⟩
      · rw [hregister]
        exact .inr ⟨[], path, paths, rfl, by simpa using hseen, owner, by simpa using howner, name,
          hclash, rfl⟩

theorem names_entriesOf : entryNames (entriesOf declared paths) =
    (paths.eraseDups.flatMap declared).map Model.name := by
  rw [← map_fst_entriesOf, List.map_map]
  rfl

/-- Analysing files that can be analysed one by one fails exactly if two of them declare models of
one name. The error is then that of the first file that clashes with one before it. Otherwise the
models are those of the files in their order, each file taken once, and have names of their own. -/
theorem analyze_duplicates [Interpreter]
    (hdeclared : ∀ path ∈ paths, workplace.modelsOf path = .ok (declared path)) :
    ((∃ path name owner, (workplace.analyze paths).result =
        .error (.flawed path (.alreadyDeclared name owner))) ↔
      ∃ path ∈ paths, ∃ owner ∈ paths, ∃ name, Clash declared path owner name) ∧
    (∀ error, (workplace.analyze paths).result = .error error →
      ∃ before path after, paths = before ++ path :: after ∧ ClashFree declared before ∧
        ∃ owner ∈ before, ∃ name, Clash declared path owner name ∧
          error = .flawed path (.alreadyDeclared name owner)) ∧
    (ClashFree declared paths →
      (workplace.analyze paths).result = .ok (paths.eraseDups.flatMap declared) ∧
        ((paths.eraseDups.flatMap declared).map Model.name).Nodup) := by
  have hnone : ClashFree declared [] := by simp [ClashFree]
  have hrun := analyzeFrom_entriesOf (by simpa using hdeclared) hnone
  simp only [List.nil_append] at hrun
  rcases hrun with ⟨hok, hfree⟩ | ⟨before, path, after, rfl, hbefore, owner, howner, name, hclash,
    herror⟩
  · have hmodels : (workplace.analyze paths).result = .ok (paths.eraseDups.flatMap declared) := by
      rw [result_analyze, ← map_fst_entriesOf]
      exact congrArg _ hok
    refine ⟨⟨?_, ?_⟩, ?_, fun _ => ⟨hmodels, ?_⟩⟩
    · rintro ⟨path, name, owner, h⟩
      rw [hmodels] at h
      cases h
    · rintro ⟨path, hpath, owner, howner, name, hclash⟩
      exact absurd hclash (hfree path hpath owner howner name)
    · intro error h
      rw [hmodels] at h
      cases h
    · rw [← names_entriesOf]
      exact (nodup_entriesOf_iff fun path hpath => nodup_modelsOf (hdeclared path hpath)).mpr hfree
  · have herror' := analyze_eq_error_iff.mpr herror
    have hmem : owner ∈ before ++ path :: after := List.mem_append_left _ howner
    refine ⟨⟨fun _ => ⟨path, by simp, owner, hmem, name, hclash⟩,
      fun _ => ⟨path, name, owner, herror'⟩⟩, ?_, ?_⟩
    · intro error h
      rw [herror'] at h
      exact ⟨before, path, after, rfl, hbefore, owner, howner, name, hclash,
        (Except.error.inj h).symm⟩
    · intro hfree
      exact absurd hclash (hfree path (by simp) owner hmem name)

open Interpreter.Common

/-- A workplace with two files that declare models of one name. -/
def twinWorkplace : Workplace where
  disk :=
    ⟨.directory
      [("cat.py", .file (Text.encode "class Cat:\n def to_json(s): 0\n")),
       ("twin.py", .file (Text.encode "class Cat:\n def to_json(s): 0\n"))], [], "/"⟩
  discovery := .standard
  root := ⟨.root, []⟩

/-- The files of that workplace, one of them twice. -/
def twinPaths : List Path := [⟨.root, ["cat.py"]⟩, ⟨.root, ["cat.py"]⟩, ⟨.root, ["twin.py"]⟩]

/-- The models that each file of that workplace declares. -/
def twinModels (path : Path) : List Model :=
  [⟨"Cat", "/".intercalate path.names, .ofMethod (some "to_json"), .ofMethod none⟩]

theorem analyze_duplicates_twinPaths :
    (∀ path ∈ twinPaths, twinWorkplace.modelsOf path = .ok (twinModels path)) ∧
      ∃ path name owner, (twinWorkplace.analyze twinPaths).result =
        .error (.flawed path (.alreadyDeclared name owner)) := by
  have hdeclared : ∀ path ∈ twinPaths, twinWorkplace.modelsOf path = .ok (twinModels path) := by
    decide +kernel
  have hclash : Clash twinModels ⟨.root, ["twin.py"]⟩ ⟨.root, ["cat.py"]⟩ "Cat" := by
    refine ⟨?_, ?_, ?_⟩ <;> decide
  exact ⟨hdeclared, (analyze_duplicates hdeclared).1.mpr
    ⟨_, by simp [twinPaths], _, by simp [twinPaths], "Cat", hclash⟩⟩

end Workplace

end ProviderGen
