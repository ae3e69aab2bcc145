import ProviderGen.Proofs.Naming
import ProviderGen.Proofs.Provider.Reading

namespace ProviderGen

/-- What a provider records of a model. -/
structure ModelRecord where
  name : String
  module : String
  method : Role → Option String

namespace Registry

/-- A registry of models with names of their own that can be written: names and methods are
identifiers, each model has a module, and what it can do is what it has a method for. -/
structure WellFormed (registry : Registry) : Prop where
  nodup : registry.names.Nodup
  name : ∀ model ∈ registry.models, Text.isIdentifier model.name.toList = true
  module : ∀ model ∈ registry.models, ∃ module, model.module = .ok module
  present_iff : ∀ model ∈ registry.models, ∀ role,
    (model.ability role).present = true ↔ (model.ability role).method.isSome = true
  method : ∀ model ∈ registry.models, ∀ role, ∀ method ∈ (model.ability role).method,
    Text.isIdentifier method.toList = true

/-- A registry holds the record of a model of its own. -/
def Holds (registry : Registry) (record : ModelRecord) : Prop :=
  ∃ model ∈ registry.models, model.name = record.name ∧ model.module = .ok record.module ∧
    ∀ role, (model.ability role).method = record.method role

namespace WellFormed

variable {registry other : Registry} {model : Model} (h : registry.WellFormed)

include h

theorem identified (hmodel : model ∈ registry.models) : Provider.Identified model where
  name := h.name model hmodel
  method role hable := by
    have hsome := (h.present_iff model hmodel role).mp hable
    obtain ⟨method, hmethod⟩ := Option.isSome_iff_exists.mp hsome
    rw [hmethod]
    exact h.method model hmodel role method hmethod

theorem eq_of_name {model' : Model} (hmodel : model ∈ registry.models)
    (hmodel' : model' ∈ registry.models) (hname : model.name = model'.name) : model = model' :=
  List.inj_on_of_nodup_map h.nodup hmodel hmodel' hname

theorem perm {models : List Model} (hperm : registry.models.Perm models) :
    WellFormed ⟨models⟩ where
  nodup := (hperm.map Model.name).nodup_iff.mp h.nodup
  name model hmodel := h.name model (hperm.mem_iff.mpr hmodel)
  module model hmodel := h.module model (hperm.mem_iff.mpr hmodel)
  present_iff model hmodel := h.present_iff model (hperm.mem_iff.mpr hmodel)
  method model hmodel := h.method model (hperm.mem_iff.mpr hmodel)

theorem legible {imports : List (String × List String)} (himports : registry.imports = .ok imports)
    {imported : String × List String} (himported : imported ∈ imports) :
    Provider.Legible imported := by
  have hmodel : ∀ name ∈ imported.2, ∃ model ∈ registry.models,
      model.module = .ok imported.1 ∧ model.name = name := fun name hname =>
    (exists_imported_iff himports).mp ⟨imported.2, himported, hname⟩
  have hsome := names_ne_nil himports himported
  obtain ⟨name, hname⟩ := List.exists_mem_of_ne_nil _ hsome
  obtain ⟨model, -, hmodule, -⟩ := hmodel name hname
  obtain ⟨segments, hsegments, hnil, hfree⟩ := exists_of_moduleName hmodule
  have hsegment : ∀ segment ∈ segments, Text.isIdentifier segment.toList = true :=
    fun segment hmem => (Bool.and_eq_true_iff.mp (hfree segment hmem)).1
  have hnot : ∀ c : Char, c ∉ ".".toList → Source.Number.goesOnInName c = false →
      c ∉ imported.1.toList := by
    intro c hdot hc
    rw [hsegments]
    exact Text.not_mem_intercalate hdot fun segment hmem =>
      not_mem_of_isIdentifier (hsegment segment hmem) hc
  refine ⟨?_, hnot ' ' (by decide) (by decide), hnot '\n' (by decide) (by decide), hsome, ?_⟩
  · -- Nothing but a single empty segment gives an empty name.
    intro hempty
    have hpieces := Text.pieces_intercalate '.' hnil fun segment hmem =>
      not_mem_of_isIdentifier (c := '.') (hsegment segment hmem) (by decide)
    have hjoined : (String.singleton '.').intercalate segments = "" := hsegments.symm.trans hempty
    rw [hjoined] at hpieces
    exact absurd (hfree "" (by rw [← hpieces]; decide)) (by decide)
  · intro name hname
    obtain ⟨model, hmem, -, rfl⟩ := hmodel name hname
    exact h.name model hmem

section Entries

variable {imports : List (String × List String)} (himports : registry.imports = .ok imports)

open Provider (Entry entriesOf mappedOf tagOf)

omit h in
theorem mem_able_iff {role : Role} :
    model ∈ registry.able role ↔ model ∈ registry.models ∧ (model.ability role).present = true := by
  rw [able, (Text.perm_sortBy _ _).mem_iff, List.mem_filter]

omit h in
theorem imported_mem_iff {module : String} {names : List String} :
    Entry.imported module names ∈ entriesOf registry imports ↔ (module, names) ∈ imports := by
  simp [entriesOf, tagOf, mappedOf]

theorem mapped_mem_iff {role : Role} {name method : String} :
    (∃ subject, Entry.mapped role name subject method ∈ entriesOf registry imports) ↔
      ∃ model ∈ registry.models, model.name = name ∧ (model.ability role).method = some method := by
  have hrole : (∃ subject, Entry.mapped role name subject method ∈ entriesOf registry imports) ↔
      ∃ model ∈ registry.able role, model.name = name ∧
        (model.ability role).method.getD "" = method := by
    cases role <;> simp [entriesOf, tagOf, mappedOf]
  rw [hrole]
  constructor
  · rintro ⟨model, hmodel, hname, hmethod⟩
    obtain ⟨hmem, hable⟩ := mem_able_iff.mp hmodel
    have hsome := (h.present_iff model hmem role).mp hable
    obtain ⟨found, hfound⟩ := Option.isSome_iff_exists.mp hsome
    rw [hfound, Option.getD_some] at hmethod
    exact ⟨model, hmem, hname, hmethod ▸ hfound⟩
  · rintro ⟨model, hmem, hname, hmethod⟩
    have hable := (h.present_iff model hmem role).mpr (by simp [hmethod])
    exact ⟨model, mem_able_iff.mpr ⟨hmem, hable⟩, hname, by simp [hmethod]⟩

include himports

theorem holds_iff {record : ModelRecord} :
    registry.Holds record ↔
      (∃ names, Entry.imported record.module names ∈ entriesOf registry imports ∧
        record.name ∈ names) ∧
      ∀ role method,
        (∃ subject, Entry.mapped role record.name subject method ∈ entriesOf registry imports) ↔
          record.method role = some method := by
  simp only [imported_mem_iff, h.mapped_mem_iff, exists_imported_iff himports]
  -- No other model has the name, so the methods under the name are those of the model.
  have hmethods : ∀ model ∈ registry.models, model.name = record.name → ∀ role method,
      (∃ model ∈ registry.models, model.name = record.name ∧
        (model.ability role).method = some method) ↔ (model.ability role).method = some method := by
    intro model hmem hname role method
    constructor
    · rintro ⟨model', hmem', hname', hmethod⟩
      obtain rfl := h.eq_of_name hmem hmem' (hname.trans hname'.symm)
      exact hmethod
    · intro hmethod
      exact ⟨model, hmem, hname, hmethod⟩
  constructor
  · rintro ⟨model, hmem, hname, hmodule, hmethod⟩
    refine ⟨⟨model, hmem, hmodule, hname⟩, fun role method => ?_⟩
    rw [hmethods model hmem hname, hmethod]
  · rintro ⟨⟨model, hmem, hmodule, hname⟩, hmethod⟩
    refine ⟨model, hmem, hname, hmodule, fun role => Option.ext fun method => ?_⟩
    rw [← hmethod role method, hmethods model hmem hname]

end Entries

section Same

open Provider (Entry classLines textWith mappedOf tagOf)

theorem exists_like (hheld : ∀ record, registry.Holds record → other.Holds record)
    (hmodel : model ∈ registry.models) :
    ∃ like ∈ other.models, like.name = model.name ∧ like.module = model.module ∧
      ∀ role, (like.ability role).method = (model.ability role).method := by
  obtain ⟨module, hmodule⟩ := h.module model hmodel
  have hrecord : registry.Holds ⟨model.name, module, fun role => (model.ability role).method⟩ :=
    ⟨model, hmodel, rfl, hmodule, fun role => rfl⟩
  obtain ⟨like, hlike, hname, hlikeModule, hmethod⟩ := hheld _ hrecord
  exact ⟨like, hlike, hname, hlikeModule.trans hmodule.symm, hmethod⟩

theorem mem_names_of_holds (hheld : ∀ record, registry.Holds record → other.Holds record)
    {name : String} (hname : name ∈ registry.names) : name ∈ other.names := by
  obtain ⟨model, hmodel, rfl⟩ := List.mem_map.mp hname
  obtain ⟨like, hlike, heq, -⟩ := h.exists_like hheld hmodel
  exact heq ▸ List.mem_map_of_mem hlike

theorem mem_tags_of_holds (hheld : ∀ record, registry.Holds record → other.Holds record)
    {entry : Entry} (hentry : entry ∈ registry.models.map tagOf) :
    entry ∈ other.models.map tagOf := by
  obtain ⟨model, hmodel, rfl⟩ := List.mem_map.mp hentry
  obtain ⟨like, hlike, hname, -⟩ := h.exists_like hheld hmodel
  exact List.mem_map.mpr ⟨like, hlike, by rw [tagOf, tagOf, hname]⟩

theorem module_of_holds (hheld : ∀ record, registry.Holds record → other.Holds record)
    {module name : String}
    (hmodel : ∃ model ∈ registry.models, model.module = .ok module ∧ model.name = name) :
    ∃ model ∈ other.models, model.module = .ok module ∧ model.name = name := by
  obtain ⟨model, hmodel, hmodule, rfl⟩ := hmodel
  obtain ⟨like, hlike, hname, hlikeModule, -⟩ := h.exists_like hheld hmodel
  exact ⟨like, hlike, hlikeModule.trans hmodule, hname⟩

variable (hother : other.WellFormed)

include hother

theorem mem_mapped_of_holds (hheld : ∀ record, registry.Holds record → other.Holds record)
    {role : Role} {entry : Entry}
    (hentry : entry ∈ (registry.models.filter fun model => (model.ability role).present).map
      (mappedOf role)) :
    entry ∈ (other.models.filter fun model => (model.ability role).present).map (mappedOf role) := by
  obtain ⟨model, hmodel, rfl⟩ := List.mem_map.mp hentry
  obtain ⟨hmem, hable⟩ := List.mem_filter.mp hmodel
  obtain ⟨like, hlike, hname, -, hmethod⟩ := h.exists_like hheld hmem
  have hlikeAble : (like.ability role).present = true := by
    rw [hother.present_iff like hlike, hmethod]
    exact (h.present_iff model hmem role).mp hable
  exact List.mem_map.mpr ⟨like, List.mem_filter.mpr ⟨hlike, hlikeAble⟩, by
    simp only [mappedOf, hname, hmethod]⟩

variable (hsame : ∀ record, registry.Holds record ↔ other.Holds record)

include hsame

theorem tags_eq : registry.byName.map tagOf = other.byName.map tagOf :=
  Text.map_sortBy_eq_of_mem_iff Entry.name (fun _ => rfl) h.nodup hother.nodup fun _ =>
    ⟨h.mem_tags_of_holds fun record => (hsame record).mp,
      hother.mem_tags_of_holds fun record => (hsame record).mpr⟩

theorem mapped_eq (role : Role) :
    (registry.able role).map (mappedOf role) = (other.able role).map (mappedOf role) := by
  have hnodup : ∀ {registry : Registry}, registry.WellFormed →
      ((registry.models.filter fun model => (model.ability role).present).map Model.name).Nodup :=
    fun h => h.nodup.sublist (List.Sublist.map _ List.filter_sublist)
  exact Text.map_sortBy_eq_of_mem_iff Entry.name (fun _ => rfl) (hnodup h) (hnodup hother)
    fun _ => ⟨h.mem_mapped_of_holds hother fun record => (hsame record).mp,
      hother.mem_mapped_of_holds h fun record => (hsame record).mpr⟩

theorem classLines_eq (className : String) :
    classLines registry className = classLines other className := by
  have hlines : ∀ {line : Model → String} {read : Model → Entry} {models others : List Model},
      (∀ model, (read model).line = line model) → models.map read = others.map read →
      models.map line = others.map line := by
    intro line read models others hline heq
    have hall := congrArg (List.map Entry.line) heq
    simpa only [List.map_map, Function.comp_def, hline] using hall
  have htags := hlines Provider.line_tagOf (h.tags_eq hother hsame)
  have hroles := fun role => hlines (Provider.line_mappedOf role) (h.mapped_eq hother hsame role)
  have hlength : registry.models.length = other.models.length := by
    simpa [byName] using congrArg List.length htags
  simp only [classLines, Provider.roleLines, htags, hroles, hlength]

end Same

end WellFormed

end Registry

namespace Provider

open Registry (Holds WellFormed)

/-- For models that can be written, a provider of another name than theirs is written. What was
written is read back from it: the names that are imported from each module, the tags, and the
methods. Another such registry gives the same text exactly if it holds the same records. -/
theorem source_eq_iff_holds {registry other : Registry} {className : String}
    (h : registry.WellFormed) (hother : other.WellFormed)
    (hclass : Text.isIdentifier className.toList = true) (hclash : className ∉ registry.names)
    (projectName : String) :
    ∃ text imports, source registry className projectName = .ok text ∧
      registry.imports = .ok imports ∧
      entriesIn className projectName text = entriesOf registry imports ∧
      (source other className projectName = .ok text ↔
        ∀ record, registry.Holds record ↔ other.Holds record) := by
  obtain ⟨imports, himports, hsource⟩ := source_of_modules hclass h.module projectName
  have hread : ∀ {registry : Registry} {imports : List (String × List String)},
      registry.WellFormed → registry.imports = .ok imports →
        entriesIn className projectName (textWith registry className projectName imports) =
          entriesOf registry imports := fun h himports =>
    entriesIn_textWith (fun model hmodel => h.identified hmodel) hclass
      (fun imported himported => h.legible himports himported) projectName
  refine ⟨_, imports, hsource.trans (if_neg hclash), himports, hread h himports, ?_⟩
  constructor
  · intro hwritten record
    obtain ⟨imports', himports', htext⟩ := source_eq_ok hwritten
    have hentries := hread hother himports'
    rw [← htext, hread h himports] at hentries
    rw [h.holds_iff himports, hother.holds_iff himports', hentries]
  · intro hsame
    obtain ⟨imports', himports', hwritten⟩ := source_of_modules hclass hother.module projectName
    have hnot : className ∉ other.names := fun hname =>
      hclash (hother.mem_names_of_holds (fun record => (hsame record).mpr) hname)
    have heq : imports = imports' :=
      Registry.imports_eq_of_iff himports himports' fun module name =>
        ⟨h.module_of_holds fun record => (hsame record).mp,
          hother.module_of_holds fun record => (hsame record).mpr⟩
    rw [hwritten.trans (if_neg hnot), textWith, textWith, h.classLines_eq hother hsame, heq]

def cat : Model := ⟨"Cat", "pets/cat.py", .ofMethod "to_json", .none⟩

/-- A model that can be written and read. -/
def dog : Model := ⟨"Dog", "pets/__init__.py", .ofMethod "to_json", .ofMethod "from_json"⟩

theorem wellFormed_pets : WellFormed ⟨[cat, dog]⟩ where
  nodup := by decide
  name := by decide
  module model hmodel := by
    rcases List.mem_pair.mp hmodel with rfl | rfl
    · exact ⟨"pets.cat", by decide⟩
    · exact ⟨"pets", by decide⟩
  present_iff model hmodel role := by
    rcases List.mem_pair.mp hmodel with rfl | rfl <;> cases role <;> decide
  method model hmodel role := by
    rcases List.mem_pair.mp hmodel with rfl | rfl <;> cases role <;> decide

theorem source_eq_iff_holds_pets :
    WellFormed ⟨[cat, dog]⟩ ∧ WellFormed ⟨[dog, cat]⟩ ∧
      Text.isIdentifier "PetModelProvider".toList = true ∧
      "PetModelProvider" ∉ Registry.names ⟨[cat, dog]⟩ ∧
      ∃ text, source ⟨[cat, dog]⟩ "PetModelProvider" "pet" = .ok text ∧
        source ⟨[dog, cat]⟩ "PetModelProvider" "pet" = .ok text := by
  have hperm : [cat, dog].Perm [dog, cat] := List.Perm.swap dog cat []
  have hother := wellFormed_pets.perm hperm
  have hclass : Text.isIdentifier "PetModelProvider".toList = true := by decide
  have hclash : "PetModelProvider" ∉ Registry.names ⟨[cat, dog]⟩ := by decide
  obtain ⟨text, -, htext, -, -, hsame⟩ :=
    source_eq_iff_holds wellFormed_pets hother hclass hclash "pet"
  refine ⟨wellFormed_pets, hother, hclass, hclash, text, htext, hsame.mpr fun record => ?_⟩
  simp only [Holds, hperm.mem_iff]

end Provider

end ProviderGen
