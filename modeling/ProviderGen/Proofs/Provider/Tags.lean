import ProviderGen.Interpreter.Common
import ProviderGen.Proofs.Lines.Values
import ProviderGen.Proofs.Naming
import ProviderGen.Proofs.Prefilter

namespace ProviderGen

open Source (Literal.value?)

namespace Provider

/-- The entries of the map of tags of a registry: a key, as it is written, and the name of a
class. -/
def tagsOf (registry : Registry) : List (String × String) :=
  registry.byName.map fun model => (Text.asciiLiteral model.name, model.name)

/-- Some lines of a text are a map of tags with some entries. -/
def HasTags (text : String) (entries : List (String × String)) : Prop :=
  ∃ front back : List String, text = String.join ((front ++
    mapLines "    model_tags: _typing.Mapping[str, type] = " "    "
      (entries.map fun entry => s!"{entry.1}: {entry.2},") ++ back).map (· ++ "\n"))

section Tags

variable {registry : Registry} {className projectName text : String}

theorem hasTags_textWith (imports : List (String × List String)) :
    HasTags (textWith registry className projectName imports) (tagsOf registry) := by
  have hentries : (tagsOf registry).map (fun entry => s!"{entry.1}: {entry.2},") =
      registry.byName.map tagEntry := by
    simp [tagsOf, Function.comp_def, tagEntry]
  unfold textWith classLines HasTags
  dsimp only
  rw [hentries]
  generalize ["", "", _, _, ""] = header
  refine ⟨preamble (if projectName = "" then className else projectName) ++
    imports.map importLine ++ header, roleLines registry .serialize ++
      roleLines registry .deserialize, ?_⟩
  simp only [List.append_assoc]

theorem mem_tagsOf {entry : String × String} :
    entry ∈ tagsOf registry ↔
      ∃ model ∈ registry.models, entry = (Text.asciiLiteral model.name, model.name) := by
  simp [tagsOf, Registry.byName, (Text.perm_sortBy _ _).mem_iff, eq_comm]

/-- A provider has a map of tags with one entry for each model, in the order of the names. Each key
stands for the UTF-16 units of the name beside it. It stands for the name itself exactly if no
character of the name takes two units. -/
theorem tags_of_source (h : source registry className projectName = .ok text)
    (named : List Char → Option Nat) :
    ∃ entries, HasTags text entries ∧ entries.map Prod.snd = registry.byName.map Model.name ∧
      ∀ key name, (key, name) ∈ entries →
        Literal.value? named key.toList = some (name.toList.flatMap Text.units16) ∧
        (Literal.value? named key.toList = some (name.toList.map Char.toNat) ↔
          ∀ c ∈ name.toList, c.toNat < 0x10000) := by
  obtain ⟨imports, -, rfl⟩ := source_eq_ok h
  refine ⟨tagsOf registry, hasTags_textWith imports, by simp [tagsOf], ?_⟩
  intro key name hentry
  obtain ⟨model, -, heq⟩ := mem_tagsOf.mp hentry
  obtain ⟨rfl, rfl⟩ := Prod.mk.inj heq
  have hvalue := Source.Literal.value?_asciiLiteral named model.name
  refine ⟨hvalue, ?_⟩
  rw [hvalue, Option.some.injEq]
  exact Source.Literal.flatMap_units16_eq_iff

end Tags

end Provider

namespace Workplace

open Source Detection

/-- A text that declares a model whose name is the Deseret letter long I. -/
def longText : String := "class 𐐀:\n def to_json(s): 0\n"

/-- The model that the text declares. -/
def longModel : Model := ⟨"𐐀", "a.py", .ofMethod "to_json", .none⟩

open Interpreter.Common

theorem outline_longText :
    Source.outline longText = .ok ⟨[.classDef "𐐀" [.functionDef "to_json" []]]⟩ := by
  have houtline : Source.outline longText = .ok ⟨[.classDef (Text.compatible "𐐀")
      [.functionDef (Text.compatible "to_json") []]]⟩ :=
    outline_of_single (by decide) (by decide +kernel)
  rwa [Text.compatible_longI, Text.compatible_of_ascii (Text.ascii_of_all (by decide))]
    at houtline

theorem result_longText :
    (emptyWorkplace.analyzeText ⟨.root, ["a.py"]⟩ longText).result = .ok [longModel] := by
  have hdetect : detect emptyWorkplace.discovery ⟨[.classDef "𐐀" [.functionDef "to_json" []]]⟩ =
      [⟨"𐐀", some "to_json", none⟩] := by
    decide
  have himport : emptyWorkplace.importPath ⟨.root, ["a.py"]⟩ = .ok "a.py" := by decide
  rw [result_analyzeText_of_outline outline_longText himport, hdetect]
  rfl

theorem source_longModel :
    ∃ text, Provider.source ⟨[longModel]⟩ "PetModelProvider" "pet" = .ok text := by
  have hmodule : ∀ model ∈ [longModel], ∃ module, model.module = .ok module :=
    fun model hmodel => ⟨"a", by rw [List.mem_singleton.mp hmodel]; decide⟩
  have hclass : Text.isIdentifier "PetModelProvider".toList = true := by decide
  obtain ⟨imports, -, hsource⟩ := Provider.source_of_modules hclass hmodule "pet"
  exact ⟨_, hsource.trans (if_neg (by decide))⟩

theorem tags_of_source_longModel :
    ∃ text, Provider.source ⟨[longModel]⟩ "PetModelProvider" "pet" = .ok text ∧
      ∃ key, Provider.HasTags text [(key, "𐐀")] ∧
        Literal.value? (fun _ => none) key.toList = some [0xd801, 0xdc00] := by
  obtain ⟨text, htext⟩ := source_longModel
  obtain ⟨entries, htags, hnames, hvalues⟩ := Provider.tags_of_source htext fun _ => none
  have hnames : entries.map Prod.snd = ["𐐀"] := hnames
  obtain ⟨⟨key, name⟩, rfl, rfl⟩ := List.map_eq_singleton_iff.mp hnames
  refine ⟨text, htext, key, htags, ?_⟩
  rw [(hvalues key "𐐀" (List.mem_singleton_self _)).1]
  decide

/-- Not all keys in maps of tags stand for the names of the models that were found. -/
theorem not_forall_tag_value :
    ¬ ∀ (named : List Char → Option Nat) (workplace : Workplace) (path : Path) (text : String)
        (models : List Model) (className projectName written : String),
      (workplace.analyzeText path text).result = .ok models →
      Provider.source ⟨models⟩ className projectName = .ok written →
      ∀ entries, Provider.HasTags written entries → ∀ key name, (key, name) ∈ entries →
        Literal.value? named key.toList = some (name.toList.map Char.toNat) := by
  intro h
  obtain ⟨written, hwritten⟩ := source_longModel
  obtain ⟨imports, -, rfl⟩ := Provider.source_eq_ok hwritten
  have hkey := h (fun _ => none) emptyWorkplace _ longText [longModel] _ _ _ result_longText
    hwritten _ (Provider.hasTags_textWith imports) (Text.asciiLiteral "𐐀") "𐐀"
    (Provider.mem_tagsOf.mpr ⟨longModel, List.mem_singleton_self _, rfl⟩)
  rw [Literal.value?_asciiLiteral] at hkey
  exact absurd hkey (by decide)

end Workplace

end ProviderGen
