import ProviderGen.Proofs.Declared
import Mathlib.Data.List.Nodup

namespace ProviderGen

namespace Workplace

variable [Interpreter]

def modelsOf (workplace : Workplace) (path : Path) : Except AnalysisError (List Model) := do
  (workplace.analyzeText path (← workplace.readText path)).result

/-- The models of a file, each with the file. -/
def declaredBy (workplace : Workplace) (path : Path) : Except AnalysisError (List (Model × Path)) := do
  return (← workplace.modelsOf path).map (·, path)

variable {workplace : Workplace} {path : Path} {paths others : List Path}
  {known found : List (Model × Path)} {models : List Model}

theorem exists_detect_of_modelsOf (h : workplace.modelsOf path = .ok models) :
    ∃ outline importPath, models = (detect workplace.discovery outline).map (modelOf importPath) ∧
      (models ≠ [] → workplace.importPath path = .ok importPath) := by
  obtain ⟨text, -, h⟩ := bind_eq_ok_iff.mp h
  obtain ⟨outline, importPath, -, hdetect⟩ := exists_detect_of_analyzeText h
  exact ⟨outline, importPath, hdetect⟩

theorem nodup_modelsOf (h : workplace.modelsOf path = .ok models) :
    (models.map Model.name).Nodup := by
  obtain ⟨outline, importPath, rfl, -⟩ := exists_detect_of_modelsOf h
  refine List.pairwise_map.mpr ?_
  refine (declares_detect workplace.discovery outline importPath).ordered.imp ?_
  intro first second hless heq
  exact absurd (heq ▸ hless) (Nat.lt_irrefl _)

/-- The names of models with their files. -/
def entryNames (entries : List (Model × Path)) : List String := entries.map (·.1.name)

omit [Interpreter] in
theorem register_eq_ok_iff (hmodels : (models.map Model.name).Nodup)
    (hknown : (entryNames known).Nodup)
    (hnew : ∀ entry ∈ known, entry.2 = path → entry.1.name ∉ models.map Model.name) :
    register path known models = .ok found ↔
      found = known ++ models.map (·, path) ∧ (entryNames found).Nodup := by
  induction models generalizing known with
  | nil =>
      simp only [register, Except.ok.injEq, List.map_nil, List.append_nil]
      constructor
      · rintro rfl
        exact ⟨rfl, hknown⟩
      · rintro ⟨rfl, -⟩
        rfl
  | cons model models ih =>
      obtain ⟨hmodel, hmodels⟩ := List.nodup_cons.mp hmodels
      unfold register
      cases hfind : known.find? fun entry => entry.1.name = model.name with
      | none =>
          have hfresh : ∀ entry ∈ known, entry.1.name ≠ model.name := by
            simpa using List.find?_eq_none.mp hfind
          have hknown' : (entryNames (known ++ [(model, path)])).Nodup := by
            rw [entryNames, List.map_append, List.nodup_append]
            refine ⟨hknown, List.nodup_singleton _, ?_⟩
            rintro name hname _ hother rfl
            obtain ⟨entry, hentry, rfl⟩ := List.mem_map.mp hname
            exact hfresh entry hentry (List.mem_singleton.mp hother)
          have hnew' : ∀ entry ∈ known ++ [(model, path)], entry.2 = path →
              entry.1.name ∉ models.map Model.name := by
            intro entry hentry hpath
            rcases List.mem_append.mp hentry with hentry | hentry
            · exact fun hmem => hnew entry hentry hpath (List.mem_cons_of_mem _ hmem)
            · obtain rfl := List.mem_singleton.mp hentry
              exact hmodel
          simpa [List.append_assoc] using ih hmodels hknown' hnew'
      | some entry =>
          obtain ⟨other, owner⟩ := entry
          have hmem := List.mem_of_find?_eq_some hfind
          have hname : other.name = model.name := by simpa using List.find?_some hfind
          have howner : owner ≠ path := by
            intro howner
            exact hnew _ hmem howner (by simp [hname])
          simp only [if_neg howner]
          constructor
          · rintro ⟨⟩
          · rintro ⟨rfl, hnodup⟩
            rw [entryNames, List.map_append, List.nodup_append] at hnodup
            exact absurd rfl (hnodup.2.2 _ (List.mem_map_of_mem hmem) _ (by simp [hname]))

omit [Interpreter] in
theorem fresh_append (hnew : ∀ entry ∈ known, entry.2 ∉ path :: paths) (hpath : path ∉ paths) :
    ∀ entry ∈ known ++ models.map (·, path), entry.2 ∉ paths := by
  intro entry hentry hmem
  rcases List.mem_append.mp hentry with hentry | hentry
  · exact hnew entry hentry (List.mem_cons_of_mem _ hmem)
  · obtain ⟨model, -, rfl⟩ := List.mem_map.mp hentry
    exact hpath hmem

theorem analyzeFrom_eq_ok_iff (hpaths : paths.Nodup) (hknown : (entryNames known).Nodup)
    (hnew : ∀ entry ∈ known, entry.2 ∉ paths) :
    (workplace.analyzeFrom known paths).result = .ok found ↔
      ∃ lists, paths.mapM workplace.declaredBy = .ok lists ∧ found = known ++ lists.flatten ∧
        (entryNames found).Nodup := by
  induction paths generalizing known with
  | nil =>
      simp only [analyzeFrom, Except.ok.injEq, List.mapM_nil, pure, Except.pure,
        exists_eq_left', List.flatten_nil, List.append_nil]
      constructor
      · rintro rfl
        exact ⟨rfl, hknown⟩
      · rintro ⟨rfl, -⟩
        rfl
  | cons path paths ih =>
      obtain ⟨hpath, hpaths⟩ := List.nodup_cons.mp hpaths
      have hstep : (workplace.analyzeFrom known (path :: paths)).result = .ok found ↔
          ∃ models, workplace.modelsOf path = .ok models ∧
            ∃ between, register path known models = .ok between ∧
              (workplace.analyzeFrom between paths).result = .ok found := by
        simp only [analyzeFrom, Logged.bind_eq, Logged.result_andThen_eq_ok, Logged.ofExcept,
          modelsOf, bind_eq_ok_iff]
        constructor
        · rintro ⟨text, htext, models, hmodels, hrest⟩
          exact ⟨models, ⟨text, htext, hmodels⟩, hrest⟩
        · rintro ⟨models, ⟨text, htext, hmodels⟩, hrest⟩
          exact ⟨text, htext, models, hmodels, hrest⟩
      have hlists : ∀ lists, (path :: paths).mapM workplace.declaredBy = .ok lists ↔
          ∃ models, workplace.modelsOf path = .ok models ∧
            ∃ rest, paths.mapM workplace.declaredBy = .ok rest ∧
              lists = models.map (·, path) :: rest := by
        intro lists
        simp only [List.mapM_cons, declaredBy, bind_eq_ok_iff, pure, Except.pure, Except.ok.injEq]
        constructor
        · rintro ⟨_, ⟨models, hmodels, rfl⟩, rest, hrest, rfl⟩
          exact ⟨models, hmodels, rest, hrest, rfl⟩
        · rintro ⟨models, hmodels, rest, hrest, rfl⟩
          exact ⟨_, ⟨models, hmodels, rfl⟩, rest, hrest, rfl⟩
      have hown : ∀ entry ∈ known, entry.2 ≠ path := by
        rintro entry hentry rfl
        exact hnew entry hentry (List.mem_cons_self ..)
      rw [hstep]
      simp only [hlists]
      constructor
      · rintro ⟨models, hmodels, between, hregister, hrest⟩
        obtain ⟨rfl, hbetween⟩ := (register_eq_ok_iff (nodup_modelsOf hmodels) hknown
          fun entry hentry heq => absurd heq (hown entry hentry)).mp hregister
        obtain ⟨rest, hlists, rfl, hnodup⟩ :=
          (ih hpaths hbetween (fresh_append hnew hpath)).mp hrest
        exact ⟨_, ⟨models, hmodels, rest, hlists, rfl⟩, by simp, hnodup⟩
      · rintro ⟨_, ⟨models, hmodels, rest, hlists, rfl⟩, rfl, hnodup⟩
        have hbetween : (entryNames (known ++ models.map (·, path))).Nodup := by
          refine hnodup.sublist (List.Sublist.map _ ?_)
          rw [List.flatten_cons, ← List.append_assoc]
          exact List.sublist_append_left _ _
        refine ⟨models, hmodels, _, (register_eq_ok_iff (nodup_modelsOf hmodels) hknown
          fun entry hentry heq => absurd heq (hown entry hentry)).mpr ⟨rfl, hbetween⟩, ?_⟩
        exact (ih hpaths hbetween (fresh_append hnew hpath)).mpr ⟨rest, hlists, by simp, hnodup⟩

theorem analyze_eq_ok_iff (hpaths : paths.Nodup) :
    (workplace.analyze paths).result = .ok models ↔
      ∃ lists, paths.mapM workplace.declaredBy = .ok lists ∧
        models = lists.flatten.map Prod.fst ∧ (models.map Model.name).Nodup := by
  have hfrom : ∀ found, (workplace.analyzeFrom [] paths).result = .ok found ↔
      ∃ lists, paths.mapM workplace.declaredBy = .ok lists ∧ found = lists.flatten ∧
        (entryNames found).Nodup := by
    intro found
    rw [analyzeFrom_eq_ok_iff hpaths (by simp [entryNames]) (by simp)]
    rfl
  have hnames : ∀ found : List (Model × Path),
      (found.map Prod.fst).map Model.name = entryNames found := by
    intro found
    simp [entryNames]
  simp only [analyze, Logged.bind_eq, Logged.result_andThen_eq_ok, hfrom, Logged.pure_eq,
    Except.ok.injEq]
  constructor
  · rintro ⟨_, ⟨lists, hlists, rfl, hnodup⟩, rfl⟩
    exact ⟨lists, hlists, rfl, by rwa [hnames]⟩
  · rintro ⟨lists, hlists, rfl, hnodup⟩
    exact ⟨_, ⟨lists, hlists, rfl, by rwa [← hnames]⟩, rfl⟩

end Workplace

end ProviderGen
