import ProviderGen.Interpreter.Common
import ProviderGen.Proofs.Analysed
import ProviderGen.Proofs.Importable

namespace ProviderGen.Workplace

variable {workplace : Workplace} {path : Path} {paths : List Path} {error : AnalysisError}

/-- The text of a file holds a null character. -/
def HoldsNull (workplace : Workplace) (path : Path) : Prop :=
  ∃ text, workplace.readText path = .ok text ∧ '\x00' ∈ text.toList

section Files

variable [Interpreter]

/-- The parser breaks down on the text of a file, which holds no null character. -/
def BreaksDown (workplace : Workplace) (path : Path) (message : String) : Prop :=
  ∃ text, workplace.readText path = .ok text ∧ '\x00' ∉ text.toList ∧
    Interpreter.sourceBreakdown? text = some message

/-- The errors of a file that can be read: those that name it, the one of null characters, a
breakdown of the parser, and a link on the way to it or to the import root that leads back to
itself. -/
inductive FailsAt (workplace : Workplace) (path : Path) : AnalysisError → Prop
  | flawed (flaw : FileFlaw) : FailsAt workplace path (.flawed path flaw)
  | nullCharacter (hnull : workplace.HoldsNull path) : FailsAt workplace path .nullCharacter
  | brokenDown {message : String} (hbroken : workplace.BreaksDown path message) :
      FailsAt workplace path (.brokenDown message)
  | linkLoop {looped loop : Path} (hlooped : looped = path ∨ looped = workplace.root)
      (hloop : workplace.disk.resolve looped = .error (.linkLoop loop)) :
      FailsAt workplace path (.linkLoop loop)

theorem failsAt_of_readText (hread : ∃ bytes, workplace.disk.readBytes path = .ok bytes)
    (h : workplace.readText path = .error error) : FailsAt workplace path error := by
  obtain ⟨bytes, hbytes⟩ := hread
  simp only [readText, hbytes] at h
  split at h
  next flaw _ =>
    obtain rfl := Except.error.inj h
    exact .flawed (.notText flaw)
  next => cases h

theorem outlineOf_of_null {text : String} (hnull : '\x00' ∈ text.toList) :
    outlineOf path text = .error .nullCharacter := by
  simp [outlineOf, Source.outline, hnull]

theorem outlineOf_of_breakdown {text message : String} (hnull : '\x00' ∉ text.toList)
    (hbroken : Interpreter.sourceBreakdown? text = some message) :
    outlineOf path text = .error (.brokenDown message) := by
  simp [outlineOf, Source.outline, hnull, hbroken]

theorem failsAt_of_outlineOf {text : String} (htext : workplace.readText path = .ok text)
    (h : outlineOf path text = .error error) : FailsAt workplace path error := by
  by_cases hnull : '\x00' ∈ text.toList
  · obtain rfl := Except.error.inj ((outlineOf_of_null hnull).symm.trans h)
    exact .nullCharacter ⟨text, htext, hnull⟩
  cases hbroken : Interpreter.sourceBreakdown? text with
  | some message =>
      obtain rfl := Except.error.inj ((outlineOf_of_breakdown hnull hbroken).symm.trans h)
      exact .brokenDown ⟨text, htext, hnull, hbroken⟩
  | none =>
      simp only [outlineOf, Source.outline, List.contains_iff_mem, hnull, hbroken, if_false] at h
      cases hparsed : Source.parse text.toList with
      | ok statements => simp [hparsed] at h
      | error line =>
          rw [hparsed] at h
          obtain rfl := Except.error.inj h
          exact .flawed _

theorem failsAt_of_importPath (h : workplace.importPath path = .error error) :
    FailsAt workplace path error := by
  cases importPath_eq_error_iff.mp h with
  | fileLoops hfile => exact .linkLoop (.inl rfl) hfile
  | nullInFile hfile => exact .flawed _
  | rootLoops hfile hroot => exact .linkLoop (.inr rfl) hroot
  | nullInRoot hfile hroot => exact .flawed _
  | outside hfile hroot hout => exact .flawed _
  | notImportable hfile hroot hmodule => exact .flawed _

theorem failsAt_of_modelsOf (hread : ∃ bytes, workplace.disk.readBytes path = .ok bytes)
    (h : workplace.modelsOf path = .error error) : FailsAt workplace path error := by
  simp only [modelsOf, result_analyzeText, bind_eq_error_iff] at h
  rcases h with htext | ⟨text, htext, houtline | ⟨outline, -, h⟩⟩
  · exact failsAt_of_readText hread htext
  · exact failsAt_of_outlineOf htext houtline
  · split at h
    · cases h
    · rcases bind_eq_error_iff.mp h with himport | ⟨importPath, -, h⟩
      · exact failsAt_of_importPath himport
      · cases h

theorem modelsOf_of_outlineOf {text : String} (htext : workplace.readText path = .ok text)
    (houtline : outlineOf path text = .error error) : workplace.modelsOf path = .error error := by
  rw [modelsOf, htext]
  refine (result_analyzeText workplace path text).trans ?_
  rw [houtline]
  rfl

theorem modelsOf_of_holdsNull (h : workplace.HoldsNull path) :
    workplace.modelsOf path = .error .nullCharacter := by
  obtain ⟨text, htext, hnull⟩ := h
  exact modelsOf_of_outlineOf htext (outlineOf_of_null hnull)

theorem modelsOf_of_breaksDown {message : String} (h : workplace.BreaksDown path message) :
    workplace.modelsOf path = .error (.brokenDown message) := by
  obtain ⟨text, htext, hnull, hbroken⟩ := h
  exact modelsOf_of_outlineOf htext (outlineOf_of_breakdown hnull hbroken)

theorem failsAt_of_register {known : List (Model × Path)} {models : List Model}
    (h : register path known models = .error error) : FailsAt workplace path error := by
  induction models generalizing known with
  | nil => cases h
  | cons model models ih =>
      unfold register at h
      split at h
      · exact ih h
      · split at h
        · exact ih h
        · obtain rfl := Except.error.inj h
          exact .flawed _

theorem result_analyzeFrom_cons (known : List (Model × Path)) (path : Path) (paths : List Path) :
    (workplace.analyzeFrom known (path :: paths)).result = (do
      let models ← workplace.modelsOf path
      let known ← register path known models
      (workplace.analyzeFrom known paths).result) := by
  simp only [analyzeFrom, Logged.bind_eq, Logged.result_andThen, Logged.ofExcept, modelsOf,
    bind_assoc]

theorem exists_failsAt_of_analyzeFrom {known : List (Model × Path)}
    (hread : ∀ path ∈ paths, ∃ bytes, workplace.disk.readBytes path = .ok bytes)
    (h : (workplace.analyzeFrom known paths).result = .error error) :
    ∃ before path after, paths = before ++ path :: after ∧
      (∃ found, (workplace.analyzeFrom known before).result = .ok found) ∧
      FailsAt workplace path error := by
  -- What is known grows from file to file, so it is general in the induction on the files.
  induction paths generalizing known with
  | nil => cases h
  | cons path paths ih =>
      rw [result_analyzeFrom_cons, bind_eq_error_iff] at h
      have hfirst : FailsAt workplace path error →
          ∃ before other after, path :: paths = before ++ other :: after ∧
            (∃ found, (workplace.analyzeFrom known before).result = .ok found) ∧
            FailsAt workplace other error :=
        fun hfails => ⟨[], path, paths, rfl, ⟨known, rfl⟩, hfails⟩
      rcases h with hmodels | ⟨models, hmodels, h⟩
      · exact hfirst (failsAt_of_modelsOf (hread path (List.mem_cons_self ..)) hmodels)
      rcases bind_eq_error_iff.mp h with hregister | ⟨between, hregister, hrest⟩
      · exact hfirst (failsAt_of_register hregister)
      · obtain ⟨before, other, after, rfl, ⟨found, hfound⟩, hfails⟩ :=
          ih (fun other hother => hread other (List.mem_cons_of_mem _ hother)) hrest
        refine ⟨path :: before, other, after, rfl, ⟨found, ?_⟩, hfails⟩
        rw [result_analyzeFrom_cons]
        exact bind_eq_ok_iff.mpr ⟨models, hmodels, bind_eq_ok_iff.mpr ⟨between, hregister, hfound⟩⟩

theorem result_analyzeFrom_append {known found : List (Model × Path)} {before : List Path}
    (hbefore : (workplace.analyzeFrom known before).result = .ok found) (paths : List Path) :
    (workplace.analyzeFrom known (before ++ paths)).result =
      (workplace.analyzeFrom found paths).result := by
  induction before generalizing known with
  | nil =>
      obtain rfl : known = found := by simpa [analyzeFrom] using hbefore
      rfl
  | cons path before ih =>
      rw [result_analyzeFrom_cons] at hbefore
      obtain ⟨models, hmodels, hbefore⟩ := bind_eq_ok_iff.mp hbefore
      obtain ⟨between, hregister, hbefore⟩ := bind_eq_ok_iff.mp hbefore
      rw [List.cons_append, result_analyzeFrom_cons, hmodels, ← ih hbefore]
      simp [hregister, bind, Except.bind]

theorem result_analyze (paths : List Path) :
    (workplace.analyze paths).result =
      (workplace.analyzeFrom [] paths).result.map fun found => found.map Prod.fst := by
  rw [analyze, Logged.bind_eq, Logged.result_andThen]
  cases (workplace.analyzeFrom [] paths).result <;> rfl

theorem analyze_eq_error_iff : (workplace.analyze paths).result = .error error ↔
    (workplace.analyzeFrom [] paths).result = .error error := by
  rw [result_analyze]
  cases (workplace.analyzeFrom [] paths).result <;> simp [Except.map]

theorem exists_analyze_eq_ok_iff : (∃ models, (workplace.analyze paths).result = .ok models) ↔
    ∃ found, (workplace.analyzeFrom [] paths).result = .ok found := by
  rw [result_analyze]
  cases (workplace.analyzeFrom [] paths).result <;> simp [Except.map]

/-- A file is analysed after others that do not fail. -/
def Reaches (workplace : Workplace) (paths : List Path) (path : Path) : Prop :=
  ∃ before after, paths = before ++ path :: after ∧
    ∃ models, (workplace.analyze before).result = .ok models

theorem exists_reaches_of_error
    (hread : ∀ path ∈ paths, ∃ bytes, workplace.disk.readBytes path = .ok bytes)
    (h : (workplace.analyze paths).result = .error error) :
    ∃ path, workplace.Reaches paths path ∧ FailsAt workplace path error := by
  obtain ⟨before, path, after, hpaths, hbefore, hfails⟩ :=
    exists_failsAt_of_analyzeFrom hread (analyze_eq_error_iff.mp h)
  exact ⟨path, ⟨before, after, hpaths, exists_analyze_eq_ok_iff.mpr hbefore⟩, hfails⟩

theorem analyze_of_reaches (hreaches : workplace.Reaches paths path)
    (hmodels : workplace.modelsOf path = .error error) :
    (workplace.analyze paths).result = .error error := by
  obtain ⟨before, after, rfl, hbefore⟩ := hreaches
  obtain ⟨found, hfound⟩ := exists_analyze_eq_ok_iff.mp hbefore
  rw [analyze_eq_error_iff, result_analyzeFrom_append hfound, result_analyzeFrom_cons, hmodels]
  rfl

/-- What analysing files that can be read comes to: it stops at the first file that fails, with an
error of that file. The error is the one of null characters exactly if that file holds one, and a
breakdown exactly if the parser breaks down on that file. -/
theorem analyze_stops_at
    (hread : ∀ path ∈ paths, ∃ bytes, workplace.disk.readBytes path = .ok bytes) :
    (∀ error, (workplace.analyze paths).result = .error error →
      ∃ path, workplace.Reaches paths path ∧ FailsAt workplace path error) ∧
    ((workplace.analyze paths).result = .error .nullCharacter ↔
      ∃ path, workplace.Reaches paths path ∧ workplace.HoldsNull path) ∧
    (∀ message, (workplace.analyze paths).result = .error (.brokenDown message) ↔
      ∃ path, workplace.Reaches paths path ∧ workplace.BreaksDown path message) := by
  refine ⟨fun error => exists_reaches_of_error hread, ⟨?_, ?_⟩, fun message => ⟨?_, ?_⟩⟩
  · intro h
    obtain ⟨path, hreaches, hfails⟩ := exists_reaches_of_error hread h
    cases hfails with
    | nullCharacter hnull => exact ⟨path, hreaches, hnull⟩
  · rintro ⟨path, hreaches, hnull⟩
    exact analyze_of_reaches hreaches (modelsOf_of_holdsNull hnull)
  · intro h
    obtain ⟨path, hreaches, hfails⟩ := exists_reaches_of_error hread h
    cases hfails with
    | brokenDown hbroken => exact ⟨path, hreaches, hbroken⟩
  · rintro ⟨path, hreaches, hbroken⟩
    exact analyze_of_reaches hreaches (modelsOf_of_breaksDown hbroken)

end Files

open Interpreter.Common

/-- A workplace with one file, which holds a null character. -/
def nullWorkplace : Workplace where
  disk := ⟨.directory [("m.py", .file (Text.encode "x = '\x00'\n"))], [], "/"⟩
  discovery := .standard
  root := ⟨.root, []⟩

theorem readBytes_nullWorkplace : ∀ path ∈ [(⟨.root, ["m.py"]⟩ : Path)],
    ∃ bytes, nullWorkplace.disk.readBytes path = .ok bytes := by
  simpa using ⟨_, rfl⟩

theorem analyze_nullWorkplace :
    (nullWorkplace.analyze [⟨.root, ["m.py"]⟩]).result = .error .nullCharacter := by
  decide +kernel

theorem analyze_stops_at_nullWorkplace :
    (∀ path ∈ [(⟨.root, ["m.py"]⟩ : Path)],
        ∃ bytes, nullWorkplace.disk.readBytes path = .ok bytes) ∧
      (nullWorkplace.analyze [⟨.root, ["m.py"]⟩]).result = .error .nullCharacter ∧
      ∃ path, nullWorkplace.Reaches [⟨.root, ["m.py"]⟩] path ∧ nullWorkplace.HoldsNull path :=
  ⟨readBytes_nullWorkplace, analyze_nullWorkplace,
    (analyze_stops_at readBytes_nullWorkplace).2.1.mp analyze_nullWorkplace⟩

/-- Not every failure to analyse files that can be read names one of them. -/
theorem not_forall_analyze_flawed :
    ¬ ∀ (workplace : Workplace) (paths : List Path), paths ≠ [] →
      (∀ path ∈ paths, ∃ bytes, workplace.disk.readBytes path = .ok bytes) →
      (∃ models, (workplace.analyze paths).result = .ok models) ∨
        ∃ path ∈ paths, ∃ flaw, (workplace.analyze paths).result = .error (.flawed path flaw) := by
  intro h
  have hfails := h nullWorkplace [⟨.root, ["m.py"]⟩] (by simp) readBytes_nullWorkplace
  rw [analyze_nullWorkplace] at hfails
  simp at hfails

end ProviderGen.Workplace
