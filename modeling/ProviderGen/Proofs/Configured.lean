import Mathlib.Data.List.DropRight
import ProviderGen.Interpreter.Common
import ProviderGen.Proofs.Markers
import ProviderGen.Proofs.Settings

namespace ProviderGen

namespace Text

/-- A text with something in it and no blanks at its ends. -/
structure IsTidy (text : String) : Prop where
  ne_empty : text ≠ ""
  head : ∀ c ∈ text.toList.head?, isBlank c = false
  last : ∀ c ∈ text.toList.getLast?, isBlank c = false

theorem isTidy_trimmed {text : String} (h : trimmed text ≠ "") : IsTidy (trimmed text) := by
  obtain ⟨inner, hinner⟩ : ∃ inner, text.toList.dropWhile isBlank = inner := ⟨_, rfl⟩
  have htrim : (trimmed text).toList = inner.rdropWhile isBlank := by
    rw [trimmed, String.toList_ofList, trim, hinner]
    rfl
  refine ⟨h, ?_, ?_⟩
  · intro c hc
    -- The first character is still that of the text without the blanks in front.
    obtain ⟨rest, hrest⟩ := List.rdropWhile_prefix isBlank inner
    have hhead : inner.head? = some c := by
      rw [← hrest, ← htrim, List.head?_append, hc, Option.some_or]
    have hblank := List.head?_dropWhile_not isBlank text.toList
    rw [hinner, hhead] at hblank
    simpa using hblank
  · intro c hc
    rw [htrim] at hc
    obtain ⟨hsome, rfl⟩ := List.mem_getLast?_eq_getLast hc
    simpa using List.rdropWhile_last_not isBlank inner hsome

end Text

namespace Setting

variable {entries : List (String × Value)} {entry : Value} {keyword name : String} {role : Role}

/-- The names that a list of keywords can be given under. -/
def keywordNames : Role → List String
  | .serialize => ["serialize_keywords", "serializeKeywords"]
  | .deserialize => ["deserialize_keywords", "deserializeKeywords"]

/-- The entries of the list of keywords that is given for a role, if one is. -/
def keywordEntries (entries : List (String × Value)) (role : Role) : List Value :=
  match (keywordNames role).findSome? (Value.lookup · entries) with
  | some (.list items) => items
  | _ => []

/-- The value that an entry gives for a keyword: the entry itself, unless it is a mapping. -/
def keywordValue : Value → Value
  | .mapping entries => valueOf entries "keyword"
  | value => value

/-- An entry gives a keyword by a text. -/
def Gives (entry : Value) (text : String) : Prop := text? (keywordValue entry) = .ok (some text)

theorem keywordOf_eq (name : String) (entry : Value) : keywordOf name entry = (do
    let text ← (text? (keywordValue entry)).mapError fun _ => .tooLong
    match Text.trim (text.getD "").toList with
    | [] => .error (.flawed (.noKeyword name))
    | keyword => .ok (String.ofList keyword)) := by
  cases entry <;> rfl

theorem exists_gives_of_keywordOf (h : keywordOf name entry = .ok keyword) :
    ∃ text, Gives entry text ∧ keyword = Text.trimmed text ∧ keyword ≠ "" := by
  rw [keywordOf_eq, bind_eq_ok_iff] at h
  obtain ⟨text, htext, h⟩ := h
  rw [mapError_eq_ok_iff] at htext
  split at h
  · cases h
  next hsome =>
    obtain rfl := Except.ok.inj h
    cases text with
    | none => exact absurd rfl hsome
    | some text => exact ⟨text, htext, rfl, by simpa using hsome⟩

theorem exists_gives_of_forall₂ {items : List Value} {keywords : List String}
    (h : List.Forall₂ (fun item keyword => keywordOf name item = .ok keyword) items keywords) :
    ∃ written, List.Forall₂ Gives items written ∧ keywords = written.map Text.trimmed ∧
      ∀ keyword ∈ keywords, keyword ≠ "" := by
  induction h with
  | nil => exact ⟨[], .nil, rfl, nofun⟩
  | cons hfirst _ ih =>
      obtain ⟨text, hgives, rfl, hsome⟩ := exists_gives_of_keywordOf hfirst
      obtain ⟨written, hwritten, rfl, hothers⟩ := ih
      exact ⟨text :: written, .cons hgives hwritten, rfl, List.forall_mem_cons.mpr ⟨hsome, hothers⟩⟩

theorem exists_gives_of_keywords {texts : List String}
    (h : keywords entries (keywordNames role) = .ok texts) :
    ∃ written, List.Forall₂ Gives (keywordEntries entries role) written ∧
      texts = written.map Text.trimmed ∧ ∀ text ∈ texts, text ≠ "" := by
  unfold keywords at h
  unfold keywordEntries
  cases hvalue : (keywordNames role).findSome? (Value.lookup · entries) with
  | none =>
      simp only [hvalue, Option.getD_none] at h
      obtain rfl := Except.ok.inj h
      exact ⟨[], .nil, rfl, nofun⟩
  | some value =>
      simp only [hvalue, Option.getD_some] at h
      cases value with
      | null =>
          obtain rfl := Except.ok.inj h
          exact ⟨[], .nil, rfl, nofun⟩
      | list items => exact exists_gives_of_forall₂ (forall₂_of_mapM h)
      | _ => cases h

end Setting

namespace Keyword

variable {role : Role}

theorem eq_of_text_eq {keyword other : Keyword} (hrole : keyword.role = other.role)
    (htext : keyword.text = other.text) : keyword = other := by
  cases keyword
  cases other
  simp_all

theorem text_of_ofText {text : String} {keyword : Keyword} (h : ofText role text = .ok keyword) :
    keyword.text = text := by
  rw [ofText] at h
  split at h
  · cases h
  · obtain rfl := Except.ok.inj h
    rfl

theorem map_text_of_forall₂ {texts : List String} {keywords : List Keyword}
    (h : List.Forall₂ (fun text keyword => ofText role text = .ok keyword) texts keywords) :
    keywords.map (·.text) = texts := by
  induction h with
  | nil => rfl
  | cons hfirst _ ih => rw [List.map_cons, text_of_ofText hfirst, ih]

theorem exists_others_of_configured {texts : List String} {keywords : List Keyword}
    (h : configured role texts = .ok keywords) :
    ∃ others, keywords = others ++ [builtin role] ∧ builtin role ∉ others ∧
      others.map (·.text) = texts.filter (· ≠ (builtin role).text) ∧
      ∀ keyword ∈ others, keyword.role = role := by
  obtain ⟨named, hnamed, rfl⟩ := configured_eq_ok_iff.mp h
  have hrole : ∀ keyword ∈ named, keyword.role = role := by
    intro keyword hkeyword
    obtain ⟨text, -, htext⟩ := (mem_mapM_iff hnamed).mp hkeyword
    exact role_of_ofText htext
  refine ⟨_, rfl, by simp, ?_, fun _ hkeyword => hrole _ (List.mem_of_mem_filter hkeyword)⟩
  rw [← map_text_of_forall₂ (forall₂_of_mapM hnamed), List.filter_map]
  refine congrArg (List.map _) (List.filter_congr ?_)
  intro keyword hkeyword
  have hbuiltin : keyword = builtin role ↔ keyword.text = (builtin role).text := by
    refine ⟨congrArg _, eq_of_text_eq ?_⟩
    rw [hrole keyword hkeyword, role_builtin]
  simp [hbuiltin]

theorem isTidy_builtin (role : Role) : Text.IsTidy (builtin role).text := by
  have htrimmed : Text.trimmed (builtin role).text = (builtin role).text := by
    cases role <;> decide
  rw [← htrimmed]
  refine Text.isTidy_trimmed ?_
  rw [htrimmed]
  exact (builtin role).text_ne_empty

end Keyword

namespace Discovery

variable {discovery : Discovery} {extensions : List String} {texts : Role → List String}

/-- Settings are those of some texts of keywords: the keywords of a role have these texts, but for
that of the built-in one, which stands at the end and only there. Every marker is a dot with a name
behind it, which starts with no dot, and the built-in ones are among them. -/
structure IsOf (discovery : Discovery) (texts : Role → List String) : Prop where
  tidy : ∀ role, ∀ keyword ∈ discovery.keywords role, Text.IsTidy keyword.text
  role_eq : ∀ role, ∀ keyword ∈ discovery.keywords role, keyword.role = role
  builtin_last : ∀ role, ∃ others, discovery.keywords role = others ++ [Keyword.builtin role] ∧
    Keyword.builtin role ∉ others ∧
    others.map (·.text) = (texts role).filter (· ≠ (Keyword.builtin role).text)
  marker : ∀ marker ∈ discovery.markers, ∃ name : String, marker = "." ++ name ∧ name ≠ "" ∧
    name.toList.head? ≠ some '.'
  builtin_marker : ∀ marker ∈ builtinMarkers, marker ∈ discovery.markers

theorem exists_name_of_mem_markers {marker : String}
    (h : configured extensions texts = .ok discovery) (hmarker : marker ∈ discovery.markers) :
    ∃ name : String, marker = "." ++ name ∧ name ≠ "" ∧ name.toList.head? ≠ some '.' := by
  rcases (mem_markers_iff h).mp hmarker with hbuiltin | ⟨extension, -, hleft, rfl⟩
  · simp only [builtinMarkers, List.mem_cons, List.not_mem_nil, or_false] at hbuiltin
    rcases hbuiltin with rfl | rfl | rfl
    · exact ⟨"mapper", rfl, by decide, by decide⟩
    · exact ⟨"freezed", rfl, by decide, by decide⟩
    · exact ⟨"g", rfl, by decide, by decide⟩
  · exact ⟨_, rfl, hleft, head?_bareExtension extension⟩

theorem isOf_of_configured (h : configured extensions texts = .ok discovery)
    (htidy : ∀ role, ∀ text ∈ texts role, Text.IsTidy text) : discovery.IsOf texts := by
  have hkeywords := fun role =>
    Keyword.exists_others_of_configured ((configured_eq_ok_iff.mp h).2 role)
  refine ⟨?_, ?_, ?_, fun _ => exists_name_of_mem_markers h, ?_⟩
  · intro role keyword hkeyword
    obtain ⟨others, hothers, -, htexts, -⟩ := hkeywords role
    rw [hothers, List.mem_append, List.mem_singleton] at hkeyword
    rcases hkeyword with hkeyword | rfl
    · have htext : keyword.text ∈ others.map (·.text) := List.mem_map_of_mem hkeyword
      rw [htexts] at htext
      exact htidy role _ (List.mem_of_mem_filter htext)
    · exact Keyword.isTidy_builtin role
  · intro role keyword hkeyword
    obtain ⟨others, hothers, -, -, hroles⟩ := hkeywords role
    rw [hothers, List.mem_append, List.mem_singleton] at hkeyword
    rcases hkeyword with hkeyword | rfl
    · exact hroles keyword hkeyword
    · exact Keyword.role_builtin role
  · intro role
    obtain ⟨others, hothers, hbuiltin, htexts, -⟩ := hkeywords role
    exact ⟨others, hothers, hbuiltin, htexts⟩
  · intro marker hmarker
    exact (mem_markers_iff h).mpr (.inl hmarker)

end Discovery

namespace Project

variable {disk : Disk} {path root : Path} {project : Project} {settings : List (String × Value)}

def modelSettings (settings : List (String × Value)) : List (String × Value) :=
  Setting.entries (Setting.valueOf settings "models")

theorem discoveryOf_of_ofSettings (h : ofSettings root settings = .ok project) :
    discoveryOf (modelSettings settings) = .ok project.discovery := by
  simp only [ofSettings_eq, bind_eq_ok_iff, mapError_eq_ok_iff] at h
  obtain ⟨_, -, _, -, _, -, discovery, hdiscovery, _, -, _, -, h⟩ := h
  obtain rfl := Except.ok.inj h
  exact hdiscovery

theorem configured_of_discoveryOf {entries : List (String × Value)} {discovery : Discovery}
    (h : discoveryOf entries = .ok discovery) :
    ∃ extensions texts,
      (∀ role, Setting.keywords entries (Setting.keywordNames role) = .ok (texts role)) ∧
      Discovery.configured extensions texts = .ok discovery := by
  simp only [discoveryOf, bind_eq_ok_iff, mapError_eq_ok_iff] at h
  obtain ⟨extensions, -, serialize, hserialize, deserialize, hdeserialize, h⟩ := h
  refine ⟨extensions, fun | .serialize => serialize | .deserialize => deserialize, ?_, h⟩
  intro role
  cases role with
  | serialize => exact hserialize
  | deserialize => exact hdeserialize

/-- Whatever the configuration file of a project holds, what is looked for in the project that is
loaded from it are the keywords that the entries of its two lists give, in their order and without
the blanks around them. -/
theorem discovery_of_load [Interpreter] (h : load disk path = .ok project) :
    ∃ (settings : List (String × Value)) (written : Role → List String),
      settingsIn disk project.root = .ok settings ∧
      (∀ role, List.Forall₂ Setting.Gives (Setting.keywordEntries (modelSettings settings) role)
        (written role)) ∧
      project.discovery.IsOf fun role => (written role).map Text.trimmed := by
  obtain ⟨expanded, root, settings, -, hread, hsettings⟩ := ofSettings_of_load h
  obtain ⟨rfl, -⟩ := ofSettings_directories hsettings
  obtain ⟨extensions, texts, htexts, hconfigured⟩ :=
    configured_of_discoveryOf (discoveryOf_of_ofSettings hsettings)
  choose written hgives hwritten hsome using fun role =>
    Setting.exists_gives_of_keywords (htexts role)
  obtain rfl : texts = fun role => (written role).map Text.trimmed := funext hwritten
  refine ⟨settings, written, hread, hgives, Discovery.isOf_of_configured hconfigured ?_⟩
  intro role text htext
  obtain ⟨raw, -, rfl⟩ := List.mem_map.mp htext
  exact Text.isTidy_trimmed (hsome role _ htext)

open Interpreter.Common

/-- A disk with a project whose configuration gives keywords in several ways: with a blank in front,
by a mapping, and as a number. -/
def wordyDisk : Disk where
  root := .directory
    [("app", .directory
      [(".modelgen.yml", .file (Text.encode ("models:\n  extensions: [dto]\n" ++
        "  serializeKeywords:\n  - ' as'\n  - keyword: to_json\n  - 7\n")))])]
  current := []
  home := "/"

def wordyDiscovery : Discovery where
  extensions := [".dto"]
  serialize := [⟨"as", .serialize, by decide⟩, ⟨"7", .serialize, by decide⟩,
    Keyword.builtin .serialize]
  deserialize := [Keyword.builtin .deserialize]

/-- The project that is loaded from that disk. -/
def wordyProject : Project where
  root := ⟨.root, ["app"]⟩
  name := "app"
  sourceDirectory := ⟨.root, ["app"]⟩
  outputDirectory := none
  discovery := wordyDiscovery
  build := ⟨[], standardTimeout⟩

theorem discovery_of_load_wordyDisk :
    load wordyDisk ⟨.root, ["app"]⟩ = .ok wordyProject ∧
      ∃ (settings : List (String × Value)) (written : Role → List String),
        settingsIn wordyDisk ⟨.root, ["app"]⟩ = .ok settings ∧
        (∀ role, List.Forall₂ Setting.Gives (Setting.keywordEntries (modelSettings settings) role)
          (written role)) ∧
        wordyDiscovery.IsOf fun role => (written role).map Text.trimmed := by
  have h : load wordyDisk ⟨.root, ["app"]⟩ = .ok wordyProject := by decide +kernel
  exact ⟨h, discovery_of_load h⟩

end Project

end ProviderGen
