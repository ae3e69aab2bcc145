import ProviderGen.Proofs.Agreement
import ProviderGen.Proofs.Sorting
import ProviderGen.Registry
import Mathlib.Tactic.Tauto

namespace ProviderGen.Registry

/-- Lines that list pairs of a module and a name: the modules and the names of each are in strictly
ascending order, each module has a name, and a name is listed with a module exactly if the two are a
pair. -/
structure Lists (pairs : String → String → Prop) (lines : List (String × List String)) : Prop where
  modules_ascend : (lines.map Prod.fst).Pairwise (· < ·)
  names_ascend : ∀ line ∈ lines, line.2.Pairwise (· < ·)
  names_ne_nil : ∀ line ∈ lines, line.2 ≠ []
  mem_iff : ∀ module name, (∃ names, (module, names) ∈ lines ∧ name ∈ names) ↔ pairs module name

namespace Lists

variable {pairs others : String → String → Prop} {lines lines' : List (String × List String)}
  {module : String} {names names' : List String}

theorem congr (h : Lists pairs lines)
    (hpairs : ∀ module name, pairs module name ↔ others module name) : Lists others lines where
  modules_ascend := h.modules_ascend
  names_ascend := h.names_ascend
  names_ne_nil := h.names_ne_nil
  mem_iff module name := (h.mem_iff module name).trans (hpairs module name)

theorem names_eq (h : Lists pairs lines) (hnames : (module, names) ∈ lines)
    (hnames' : (module, names') ∈ lines) : names = names' := by
  have hnodup : (lines.map Prod.fst).Nodup := h.modules_ascend.imp ne_of_lt
  have hline := List.inj_on_of_nodup_map hnodup hnames hnames' rfl
  exact (Prod.mk.inj hline).2

theorem mem_names_iff (h : Lists pairs lines) (hline : (module, names) ∈ lines) {name : String} :
    name ∈ names ↔ pairs module name := by
  rw [← h.mem_iff]
  constructor
  · intro hname
    exact ⟨names, hline, hname⟩
  · rintro ⟨names', hline', hname⟩
    rwa [h.names_eq hline hline']

theorem subset (h : Lists pairs lines) (h' : Lists pairs lines') : lines ⊆ lines' := by
  rintro ⟨module, names⟩ hline
  obtain ⟨name, hname⟩ := List.exists_mem_of_ne_nil _ (h.names_ne_nil _ hline)
  obtain ⟨names', hline', -⟩ := (h'.mem_iff module name).mpr ((h.mem_names_iff hline).mp hname)
  have hsame : names = names' := by
    refine (h.names_ascend _ hline).eq_of_mem_iff (h'.names_ascend _ hline') ?_
    intro other
    rw [h.mem_names_iff hline, h'.mem_names_iff hline']
  rwa [hsame]

theorem unique (h : Lists pairs lines) (h' : Lists pairs lines') : lines = lines' := by
  -- Both are ascending in their modules, which orders the lines strictly.
  let before : String × List String → String × List String → Prop :=
    fun first second => first.1 < second.1
  have hirrefl : Std.Irrefl before := ⟨fun line => lt_irrefl line.1⟩
  have hantisymm : Std.Antisymm before := ⟨fun _ _ hless hgreater => absurd hgreater hless.not_gt⟩
  have hascend : lines.Pairwise before := List.pairwise_map.mp h.modules_ascend
  have hascend' : lines'.Pairwise before := List.pairwise_map.mp h'.modules_ascend
  exact List.Subset.antisymm_of_pairwise hascend hascend' (h.subset h') (h'.subset h)

end Lists

section Grouped

variable {pairs others : List (String × String)} {entry : String × List String}

theorem mem_grouped (h : entry ∈ grouped pairs) {name : String} :
    name ∈ entry.2 ↔ (entry.1, name) ∈ pairs := by
  obtain ⟨module, -, rfl⟩ := List.mem_map.mp h
  simp [Text.mem_sortOnce]

theorem modules_grouped (pairs : List (String × String)) :
    (grouped pairs).map Prod.fst = Text.sortOnce (pairs.map Prod.fst) := by
  simp [grouped, Function.comp_def]

theorem exists_of_mem_grouped (h : entry ∈ grouped pairs) :
    (∃ name, (entry.1, name) ∈ pairs) ∧ entry.2 ≠ [] ∧
      ∀ name ∈ entry.2, (entry.1, name) ∈ pairs := by
  have hmodule : entry.1 ∈ (grouped pairs).map Prod.fst := List.mem_map_of_mem h
  rw [modules_grouped, Text.mem_sortOnce, List.mem_map] at hmodule
  obtain ⟨pair, hpair, heq⟩ := hmodule
  have hfirst : (entry.1, pair.2) ∈ pairs := by rwa [← heq]
  exact ⟨⟨_, hfirst⟩, List.ne_nil_of_mem ((mem_grouped h).mpr hfirst),
    fun name hname => (mem_grouped h).mp hname⟩

theorem lists_grouped (pairs : List (String × String)) :
    Lists (fun module name => (module, name) ∈ pairs) (grouped pairs) where
  modules_ascend := by
    rw [modules_grouped]
    exact Text.pairwise_sortOnce _
  names_ascend line hline := by
    obtain ⟨module, -, rfl⟩ := List.mem_map.mp hline
    exact Text.pairwise_sortOnce _
  names_ne_nil line hline := (exists_of_mem_grouped hline).2.1
  mem_iff module name := by
    constructor
    · rintro ⟨names, hline, hname⟩
      exact (mem_grouped hline).mp hname
    · intro hmem
      have hmodule : module ∈ (grouped pairs).map Prod.fst := by
        rw [modules_grouped, Text.mem_sortOnce]
        exact List.mem_map_of_mem hmem
      obtain ⟨⟨_, names⟩, hline, rfl⟩ := List.mem_map.mp hmodule
      exact ⟨names, hline, (mem_grouped hline).mpr hmem⟩

theorem grouped_eq_of_mem_iff (h : ∀ pair, pair ∈ pairs ↔ pair ∈ others) :
    grouped pairs = grouped others :=
  ((lists_grouped pairs).congr fun module name => h (module, name)).unique (lists_grouped others)

end Grouped

/-- A model of a registry has some name and is in some module. -/
def HasModel (registry : Registry) (module name : String) : Prop :=
  ∃ model ∈ registry.models, model.module = .ok module ∧ model.name = name

section Imports

variable {registry other : Registry} {models : List Model} {lines : List (String × List String)}

theorem exists_pairs (h : imports ⟨models⟩ = .ok lines) :
    ∃ pairs, lines = grouped pairs ∧ (∀ model ∈ models, ∃ module, model.module = .ok module) ∧
      ∀ module name, (module, name) ∈ pairs ↔
        ∃ model ∈ models, model.module = .ok module ∧ model.name = name := by
  obtain ⟨pairs, hpairs, h⟩ := bind_eq_ok_iff.mp h
  refine ⟨pairs, by simpa [pure, Except.pure, eq_comm] using h, fun model hmodel => ?_, ?_⟩
  · obtain ⟨pair, hpair⟩ := exists_of_mapM hpairs hmodel
    obtain ⟨module, hmodule, -⟩ := bind_eq_ok_iff.mp hpair
    exact ⟨module, hmodule⟩
  · intro module name
    rw [mem_mapM_iff hpairs]
    simp [bind_eq_ok_iff, pure, Except.pure]

theorem lists_imports (h : registry.imports = .ok lines) : Lists registry.HasModel lines := by
  obtain ⟨pairs, rfl, -, hpairs⟩ := exists_pairs h
  exact (lists_grouped pairs).congr hpairs

theorem exists_imported_iff (h : imports ⟨models⟩ = .ok lines) {module name : String} :
    (∃ names, (module, names) ∈ lines ∧ name ∈ names) ↔
      ∃ model ∈ models, model.module = .ok module ∧ model.name = name :=
  (lists_imports h).mem_iff module name

theorem names_ne_nil (h : imports ⟨models⟩ = .ok lines) {line : String × List String}
    (hline : line ∈ lines) : line.2 ≠ [] :=
  (lists_imports h).names_ne_nil line hline

theorem imports_eq_of_iff {others : List Model} {lines' : List (String × List String)}
    (h : imports ⟨models⟩ = .ok lines) (h' : imports ⟨others⟩ = .ok lines')
    (hsame : ∀ module name, (∃ model ∈ models, model.module = .ok module ∧ model.name = name) ↔
      ∃ model ∈ others, model.module = .ok module ∧ model.name = name) : lines = lines' :=
  ((lists_imports h).congr hsame).unique (lists_imports h')

/-- What is imported cannot be said if a model has no module, and the first such model tells why. -/
theorem imports_eq_error_iff {error : ModuleNameError} :
    registry.imports = .error error ↔ ∃ before model after,
      registry.models = before ++ model :: after ∧
      (∀ other ∈ before, ∃ module, other.module = .ok module) ∧ model.module = .error error := by
  have hok : ∀ model : Model, (∃ pair : String × String,
      (do return (← model.module, model.name) : Except ModuleNameError _) = .ok pair) ↔
        ∃ module, model.module = .ok module := by
    simp [bind_eq_ok_iff, pure, Except.pure]
  have herror : ∀ model : Model,
      (do return (← model.module, model.name) : Except ModuleNameError (String × String)) =
        .error error ↔ model.module = .error error := by
    simp [bind_eq_error_iff, pure, Except.pure]
  rw [imports, bind_eq_error_iff, mapM_eq_error_iff]
  simp only [hok, herror]
  refine or_iff_left ?_
  rintro ⟨pairs, -, hgrouped⟩
  cases hgrouped

theorem exists_imports_iff : (∃ lines, imports ⟨models⟩ = .ok lines) ↔
    ∀ model ∈ models, ∃ module, model.module = .ok module := by
  constructor
  · rintro ⟨lines, h⟩
    obtain ⟨-, -, hmodules, -⟩ := exists_pairs h
    exact hmodules
  · intro h
    cases himports : imports ⟨models⟩ with
    | ok lines => exact ⟨lines, rfl⟩
    | error error =>
        obtain ⟨before, model, after, hmodels, -, herror⟩ := imports_eq_error_iff.mp himports
        obtain rfl : models = _ := hmodels
        obtain ⟨module, hmodule⟩ := h model (by simp)
        cases herror.symm.trans hmodule

/-- Imports are exact: they cannot be said exactly if a model has no module, and the first such model
tells why. Otherwise they are the lines that list the models, so registries with the same names in the
same modules have the same imports. -/
theorem imports_exact (registry : Registry) :
    ((∃ error, registry.imports = .error error) ↔
      ∃ model ∈ registry.models, ∃ error, model.module = .error error) ∧
    (∀ error, registry.imports = .error error ↔ ∃ before model after,
      registry.models = before ++ model :: after ∧
        (∀ other ∈ before, ∃ module, other.module = .ok module) ∧ model.module = .error error) ∧
    (∀ lines, registry.imports = .ok lines ↔
      (∀ model ∈ registry.models, ∃ module, model.module = .ok module) ∧
        Lists registry.HasModel lines) ∧
    ∀ (other : Registry) lines lines', registry.imports = .ok lines → other.imports = .ok lines' →
      (∀ module name, registry.HasModel module name ↔ other.HasModel module name) →
        lines = lines' := by
  refine ⟨⟨?_, ?_⟩, ?_, ?_, ?_⟩
  · rintro ⟨error, h⟩
    obtain ⟨before, model, after, hmodels, -, herror⟩ := imports_eq_error_iff.mp h
    exact ⟨model, by simp [hmodels], error, herror⟩
  · rintro ⟨model, hmodel, error, herror⟩
    cases h : registry.imports with
    | error failure => exact ⟨failure, rfl⟩
    | ok lines =>
        obtain ⟨module, hmodule⟩ := exists_imports_iff.mp ⟨lines, h⟩ model hmodel
        cases herror.symm.trans hmodule
  · intro error
    exact imports_eq_error_iff
  · intro lines
    constructor
    · intro h
      exact ⟨exists_imports_iff.mp ⟨lines, h⟩, lists_imports h⟩
    · rintro ⟨hmodules, hlists⟩
      obtain ⟨found, hfound⟩ := exists_imports_iff.mpr hmodules
      have hsame : found = lines := (lists_imports hfound).unique hlists
      rwa [hsame] at hfound
  · intro other lines lines' h h' hsame
    exact imports_eq_of_iff h h' hsame

/-- Models in two modules, one of which is that of a file and of a package. -/
def zoo : Registry :=
  ⟨[⟨"Tiger", "zoo/cats.py", .ofMethod "to_json", .none⟩,
    ⟨"Ape", "zoo.py", .ofMethod "to_json", .none⟩,
    ⟨"Lion", "zoo/cats/__init__.py", .ofMethod "to_json", .none⟩]⟩

/-- The same models in another order, and one of them twice. -/
def zooAgain : Registry := ⟨zoo.models.reverse ++ zoo.models.take 1⟩

theorem imports_exact_zoo :
    zoo.imports = .ok [("zoo", ["Ape"]), ("zoo.cats", ["Lion", "Tiger"])] ∧
      (∀ module name, zoo.HasModel module name ↔ zooAgain.HasModel module name) ∧
      zooAgain.imports = .ok [("zoo", ["Ape"]), ("zoo.cats", ["Lion", "Tiger"])] := by
  have himports : zoo.imports = .ok [("zoo", ["Ape"]), ("zoo.cats", ["Lion", "Tiger"])] := by decide
  have hmodels : ∀ model, model ∈ zoo.models ↔ model ∈ zooAgain.models := by
    simp only [zooAgain, zoo, List.mem_append, List.mem_reverse, List.take, List.mem_cons]
    tauto
  have hsame : ∀ module name, zoo.HasModel module name ↔ zooAgain.HasModel module name := by
    simp [HasModel, hmodels]
  have hmodules : ∀ model ∈ zooAgain.models, ∃ module, model.module = .ok module := by
    intro model hmodel
    exact exists_imports_iff.mp ⟨_, himports⟩ model ((hmodels model).mpr hmodel)
  obtain ⟨lines, hlines⟩ := exists_imports_iff.mpr hmodules
  have heq := (imports_exact zoo).2.2.2 zooAgain _ lines himports hlines hsame
  exact ⟨himports, hsame, heq ▸ hlines⟩

end Imports

end ProviderGen.Registry
