import ProviderGen.Interpreter.Common
import ProviderGen.Proofs.Agreement
import ProviderGen.Proofs.Builtin
import ProviderGen.Proofs.Prefilter
import Mathlib.Logic.Function.Basic

namespace ProviderGen

namespace Keyword

/-- A list has one keyword more than another, at any place. It is the same list if the keyword was
there already and has a fixed place, as the built-in one has. -/
inductive Inserted (keyword : Keyword) : List Keyword → List Keyword → Prop
  | known {keywords : List Keyword} : keyword ∈ keywords → Inserted keyword keywords keywords
  | placed (before after : List Keyword) :
      Inserted keyword (before ++ after) (before ++ keyword :: after)

variable {keyword other : Keyword} {role : Role} {keywords more : List Keyword}

theorem Inserted.mem_iff (h : Inserted keyword keywords more) :
    other ∈ more ↔ other ∈ keywords ∨ other = keyword := by
  cases h with
  | known hmem =>
      refine (or_iff_left_of_imp ?_).symm
      rintro rfl
      exact hmem
  | placed before after =>
      simp only [List.mem_append, List.mem_cons]
      tauto

theorem ofText_text (keyword : Keyword) : ofText keyword.role keyword.text = .ok keyword := by
  rw [ofText, dif_neg keyword.text_ne_empty]

theorem role_of_ofText {text : String} (h : ofText role text = .ok keyword) :
    keyword.role = role := by
  rw [ofText] at h
  split at h
  · cases h
  · obtain rfl := Except.ok.inj h
    rfl

theorem configured_eq_ok_iff {texts : List String} :
    configured role texts = .ok keywords ↔
      ∃ named, texts.mapM (ofText role) = .ok named ∧
        keywords = named.filter (· ≠ builtin role) ++ [builtin role] := by
  rw [configured, bind_eq_ok_iff]
  refine exists_congr ?_
  intro named
  refine and_congr_right ?_
  intro hnamed
  rw [withBuiltin_eq_ok_iff, and_iff_right]
  intro keyword hmem
  obtain ⟨text, -, htext⟩ := (mem_mapM_iff hnamed).mp hmem
  exact role_of_ofText htext

theorem configured_insert {front back : List String}
    (h : configured keyword.role (front ++ back) = .ok keywords) :
    ∃ more, configured keyword.role (front ++ keyword.text :: back) = .ok more ∧
      Inserted keyword keywords more := by
  obtain ⟨named, hnamed, rfl⟩ := configured_eq_ok_iff.mp h
  rw [List.mapM_append] at hnamed
  obtain ⟨before, hbefore, hnamed⟩ := bind_eq_ok_iff.mp hnamed
  obtain ⟨after, hafter, hnamed⟩ := bind_eq_ok_iff.mp hnamed
  obtain rfl := Except.ok.inj hnamed
  have hmore : (front ++ keyword.text :: back).mapM (ofText keyword.role) =
      .ok (before ++ keyword :: after) := by
    rw [List.mapM_append, List.mapM_cons, hbefore, ofText_text, hafter]
    rfl
  refine ⟨_, configured_eq_ok_iff.mpr ⟨_, hmore, rfl⟩, ?_⟩
  by_cases hbuiltin : keyword = builtin keyword.role
  · simpa [← hbuiltin] using (Inserted.known (by simp) : Inserted keyword _ _)
  · simpa [hbuiltin] using Inserted.placed _ _

end Keyword

namespace Discovery

/-- The settings of configured extensions and of texts of keywords for each role. -/
def configured (extensions : List String) (texts : Role → List String) :
    Except KeywordError Discovery :=
  ofTexts extensions (texts .serialize) (texts .deserialize)

variable {discovery other : Discovery} {extensions : List String} {texts : Role → List String}

theorem configured_eq_ok_iff :
    configured extensions texts = .ok discovery ↔
      discovery.extensions = Text.sortOnce (extensions.filterMap marker?) ∧
        ∀ role, Keyword.configured role (texts role) = .ok (discovery.keywords role) := by
  simp only [configured, ofTexts, bind_eq_ok_iff, pure, Except.pure, Except.ok.injEq]
  constructor
  · rintro ⟨serialize, hserialize, deserialize, hdeserialize, rfl⟩
    refine ⟨rfl, ?_⟩
    intro role
    cases role with
    | serialize => exact hserialize
    | deserialize => exact hdeserialize
  · rintro ⟨hextensions, hkeywords⟩
    exact ⟨_, hkeywords .serialize, _, hkeywords .deserialize, by rw [← hextensions]; rfl⟩

/-- Settings that have one keyword more than others, in the role of the keyword. -/
structure Gains (keyword : Keyword) (discovery other : Discovery) : Prop where
  inserted :
    Keyword.Inserted keyword (discovery.keywords keyword.role) (other.keywords keyword.role)
  keywords_eq : ∀ role ≠ keyword.role, other.keywords role = discovery.keywords role

theorem configured_insert {front back : List String} {keyword : Keyword}
    (h : configured extensions (Function.update texts keyword.role (front ++ back)) =
      .ok discovery) :
    ∃ other, configured extensions
        (Function.update texts keyword.role (front ++ keyword.text :: back)) = .ok other ∧
      Gains keyword discovery other := by
  obtain ⟨hextensions, hkeywords⟩ := configured_eq_ok_iff.mp h
  have hrole := hkeywords keyword.role
  rw [Function.update_self] at hrole
  obtain ⟨more, hmore, hinserted⟩ := Keyword.configured_insert hrole
  let lists := Function.update discovery.keywords keyword.role more
  let other : Discovery := ⟨discovery.extensions, lists .serialize, lists .deserialize⟩
  have hlists : ∀ role, other.keywords role = lists role := by
    intro role
    cases role <;> rfl
  refine ⟨other, configured_eq_ok_iff.mpr ⟨hextensions, ?_⟩, ?_, ?_⟩
  · intro role
    rw [hlists]
    by_cases heq : role = keyword.role
    · subst heq
      simpa [lists] using hmore
    · simpa [lists, heq] using hkeywords role
  · simpa [hlists, lists] using hinserted
  · intro role hne
    simp [hlists, lists, hne]

end Discovery

namespace Detection

open Source Keyword

variable {keyword : Keyword} {keywords more : List Keyword} {discovery other : Discovery}
  {names : List String} {role : Role} {outline : Outline} {name : String} {body : List Statement}

theorem marked?_insert (h : Inserted keyword keywords more)
    (hnone : ¬ ∃ method ∈ names, keyword.text.toList <:+: method.toList) :
    marked? more names = marked? keywords names := by
  have hfind : names.find? keyword.matchesIn = none := by
    rw [List.find?_eq_none]
    intro method hmethod hmarked
    exact hnone ⟨method, hmethod, matchesIn_iff.mp hmarked⟩
  cases h with
  | known => rfl
  | placed before after =>
      simp only [marked?, List.findSome?_append, List.findSome?_cons, hfind]

theorem isSome_marked?_insert (h : Inserted keyword keywords more) :
    (marked? more names).isSome ↔
      (marked? keywords names).isSome ∨
        ∃ method ∈ names, keyword.text.toList <:+: method.toList := by
  simp only [marked?, List.findSome?_isSome_iff, List.find?_isSome, matchesIn_iff, h.mem_iff]
  constructor
  · rintro ⟨other, hmem | rfl, hmarked⟩
    · exact .inl ⟨other, hmem, hmarked⟩
    · exact .inr hmarked
  · rintro (⟨other, hmem, hmarked⟩ | hmarked)
    · exact ⟨other, .inl hmem, hmarked⟩
    · exact ⟨keyword, .inr rfl, hmarked⟩

theorem isSome_marked?_gains (h : Discovery.Gains keyword discovery other) :
    (marked? (other.keywords role) names).isSome ↔
      (marked? (discovery.keywords role) names).isSome ∨
        role = keyword.role ∧ ∃ method ∈ names, keyword.text.toList <:+: method.toList := by
  by_cases hrole : role = keyword.role
  · subst hrole
    simpa using isSome_marked?_insert h.inserted
  · simp [h.keywords_eq role hrole, hrole]

/-- The methods for a role that a public class has in its last statement: none if there is no such
class. -/
def offered (outline : Outline) (name : String) (role : Role) : List String :=
  ((classes outline).lookup name).elim [] (methods role)

theorem lookup_classes :
    (classes outline).lookup name = some body ↔
      Public name ∧ LastClass outline.statements name body := by
  have hmem : ∀ body, (classes outline).lookup name = some body →
      Public name ∧ LastClass outline.statements name body := by
    intro body hlookup
    obtain ⟨before, after, hclasses, -⟩ := List.lookup_eq_some_iff.mp hlookup
    exact ((binds_classes outline).mem_iff name body).mp (by simp [hclasses])
  refine ⟨hmem body, ?_⟩
  rintro ⟨hpublic, hlast⟩
  cases hlookup : (classes outline).lookup name with
  | none =>
      have hclass := ((binds_classes outline).mem_iff name body).mpr ⟨hpublic, hlast⟩
      exact absurd rfl (bne_iff_ne.mp (List.lookup_eq_none_iff.mp hlookup _ hclass))
  | some other => rw [hlast.unique (hmem other hlookup).2]

theorem mem_offered {method : String} :
    method ∈ offered outline name role ↔
      Public name ∧ ∃ body, LastClass outline.statements name body ∧ Offers role body method := by
  simp only [← mem_methods, ← exists_and_left, ← and_assoc, ← lookup_classes, offered]
  cases (classes outline).lookup name <;> simp

/-- A keyword marks a method for its role in the last statement of a class. -/
def Marks (keyword : Keyword) (outline : Outline) (name : String) : Prop :=
  ∃ body, LastClass outline.statements name body ∧
    ∃ method, Offers keyword.role body method ∧ keyword.text.toList <:+: method.toList

theorem exists_mem_offered_iff :
    (∃ method ∈ offered outline name keyword.role, keyword.text.toList <:+: method.toList) ↔
      Public name ∧ Marks keyword outline name := by
  simp only [mem_offered, Marks]
  constructor
  · rintro ⟨method, ⟨hpublic, body, hlast, hoffers⟩, hmarked⟩
    exact ⟨hpublic, body, hlast, method, hoffers, hmarked⟩
  · rintro ⟨hpublic, body, hlast, method, hoffers, hmarked⟩
    exact ⟨method, ⟨hpublic, body, hlast, hoffers⟩, hmarked⟩

end Detection

namespace Workplace

open Source Detection

variable {outline : Outline} {discovery other : Discovery} {importPath name : String} {role : Role}
  {keyword : Keyword}

/-- What a class can do in a role, as models say: nothing if there is no model of it. -/
def abilityIn (models : List Model) (name : String) (role : Role) : Ability :=
  (models.find? fun model => model.name = name).elim .none (·.ability role)

theorem mem_names_detect :
    name ∈ ((detect discovery outline).map (modelOf importPath)).map Model.name ↔
      ∃ role, (marked? (discovery.keywords role) (offered outline name role)).isSome := by
  rw [List.mem_map, (declares_detect discovery outline importPath).exists_iff]
  simp only [← isSome_marked?_iff, ← exists_and_left, ← and_assoc, ← lookup_classes, offered]
  cases (classes outline).lookup name <;> simp [marked?]

theorem abilityIn_detect :
    abilityIn ((detect discovery outline).map (modelOf importPath)) name role =
      .ofMethod (marked? (discovery.keywords role) (offered outline name role)) := by
  rw [abilityIn]
  cases hfind : ((detect discovery outline).map (modelOf importPath)).find?
      fun model => model.name = name with
  | some model =>
      obtain ⟨detected, hmem, rfl⟩ := List.mem_map.mp (List.mem_of_find?_eq_some hfind)
      have hname := List.find?_some hfind
      obtain rfl : detected.name = name := of_decide_eq_true hname
      obtain ⟨body, hpublic, hlast, hmethods, -⟩ := mem_detect.mp hmem
      rw [Option.elim_some, ability_modelOf, hmethods, offered, lookup_classes.mpr ⟨hpublic, hlast⟩,
        Option.elim_some]
  | none =>
      have hmissing :
          name ∉ ((detect discovery outline).map (modelOf importPath)).map Model.name := by
        rw [List.mem_map]
        simpa using hfind
      rw [mem_names_detect, not_exists] at hmissing
      rw [Option.not_isSome_iff_eq_none.mp (hmissing role)]
      rfl

theorem present_abilityIn_detect :
    (abilityIn ((detect discovery outline).map (modelOf importPath)) name role).present =
      (marked? (discovery.keywords role) (offered outline name role)).isSome := by
  rw [abilityIn_detect]
  exact Ability.present_ofMethod fun _ hmethod => marked?_ne_empty hmethod

/-- How the models that an outline declares change with one more keyword: public classes with a
method that it marks are able to play the role of the keyword, and nothing else changes but the
method of such classes. -/
structure Widens (keyword : Keyword) (outline : Outline) (models more : List Model) : Prop where
  detected_iff : ∀ name, name ∈ more.map Model.name ↔
    name ∈ models.map Model.name ∨ Public name ∧ Marks keyword outline name
  ability_eq : ∀ name, ∀ role ≠ keyword.role, abilityIn more name role = abilityIn models name role
  present_iff : ∀ name, (abilityIn more name keyword.role).present = true ↔
    (abilityIn models name keyword.role).present = true ∨ Public name ∧ Marks keyword outline name
  method : ∀ name, (abilityIn more name keyword.role).method ≠
    (abilityIn models name keyword.role).method → Marks keyword outline name

theorem widens_detect (h : Discovery.Gains keyword discovery other) :
    Widens keyword outline ((detect discovery outline).map (modelOf importPath))
      ((detect other outline).map (modelOf importPath)) := by
  constructor
  · intro name
    simp only [mem_names_detect, isSome_marked?_gains h, exists_or, exists_eq_left,
      exists_mem_offered_iff]
  · intro name role hrole
    rw [abilityIn_detect, abilityIn_detect, h.keywords_eq role hrole]
  · intro name
    rw [present_abilityIn_detect, present_abilityIn_detect, isSome_marked?_insert h.inserted,
      exists_mem_offered_iff]
  · intro name hdiffers
    by_contra hmarks
    have hnone : ¬ ∃ method ∈ offered outline name keyword.role,
        keyword.text.toList <:+: method.toList := by
      rw [exists_mem_offered_iff]
      exact fun h => hmarks h.2
    rw [abilityIn_detect, abilityIn_detect, marked?_insert h.inserted hnone] at hdiffers
    exact hdiffers rfl

/-- The settings have no part in how a file is imported. -/
theorem importPath_same (disk : Disk) (discovery other : Discovery) (root path : Path) :
    Workplace.importPath ⟨disk, discovery, root⟩ path =
      Workplace.importPath ⟨disk, other, root⟩ path := by
  rfl

section Texts

variable [Interpreter]

/-- One more text among the configured keywords of a role, at any place: the settings are accepted
then, too, and only classes with a method that the new keyword marks are affected. -/
theorem analyzeText_insert_keyword {extensions front back : List String}
    {texts : Role → List String} {disk : Disk} {root path : Path} {text : String}
    (hdiscovery : Discovery.configured extensions
      (Function.update texts keyword.role (front ++ back)) = .ok discovery)
    (houtline : Source.outline text = .ok outline)
    (himport : Workplace.importPath ⟨disk, discovery, root⟩ path = .ok importPath) :
    ∃ other, Discovery.configured extensions
        (Function.update texts keyword.role (front ++ keyword.text :: back)) = .ok other ∧
      ∃ models more,
        (analyzeText ⟨disk, discovery, root⟩ path text).result = .ok models ∧
        (analyzeText ⟨disk, other, root⟩ path text).result = .ok more ∧
        Widens keyword outline models more := by
  obtain ⟨other, hother, hgains⟩ := Discovery.configured_insert hdiscovery
  have hsame : Workplace.importPath ⟨disk, other, root⟩ path = .ok importPath :=
    (importPath_same ..).trans himport
  exact ⟨other, hother, _, _, result_analyzeText_of_outline houtline himport,
    result_analyzeText_of_outline houtline hsame, widens_detect hgains⟩

end Texts

open Interpreter.Common

/-- The keyword `dump` for methods that turn an instance into plain data. -/
def dumpKeyword : Keyword := ⟨"dump", .serialize, by decide⟩

/-- Settings with another keyword. -/
def mapDiscovery : Discovery :=
  ⟨[], [⟨"to_map", .serialize, by decide⟩, .builtin .serialize], [.builtin .deserialize]⟩

/-- Those settings with the keyword `dump` before the other one. -/
def dumpDiscovery : Discovery :=
  { mapDiscovery with serialize := dumpKeyword :: mapDiscovery.serialize }

/-- A text of two classes that have a method for the keyword, one of them besides another method. -/
def dumpText : String :=
  "class A:\n def to_map(s): 0\n def dump(s): 0\nclass B:\n def dump(s): 0\n"

/-- What is detected in the text without the keyword. -/
def mapDetected : List Detected := [⟨"A", some "to_map", none⟩]

def dumpDetected : List Detected := [⟨"A", some "dump", none⟩, ⟨"B", some "dump", none⟩]

theorem analyzeText_insert_keyword_dumpText :
    ∃ outline, Source.outline dumpText = .ok outline ∧
      Discovery.configured [] (Function.update (fun _ => []) .serialize ([] ++ ["to_map"])) =
        .ok mapDiscovery ∧
      Discovery.configured [] (Function.update (fun _ => []) .serialize
        ([] ++ "dump" :: ["to_map"])) = .ok dumpDiscovery ∧
      Workplace.importPath ⟨emptyWorkplace.disk, mapDiscovery, ⟨.root, []⟩⟩ ⟨.root, ["a.py"]⟩ =
        .ok "a.py" ∧
      Widens dumpKeyword outline (mapDetected.map (modelOf "a.py"))
        (dumpDetected.map (modelOf "a.py")) := by
  have hdiscovery : Discovery.configured []
      (Function.update (fun _ => []) dumpKeyword.role ([] ++ ["to_map"])) = .ok mapDiscovery := by
    decide
  have hdump : Discovery.configured []
      (Function.update (fun _ => []) dumpKeyword.role ([] ++ dumpKeyword.text :: ["to_map"])) =
        .ok dumpDiscovery := by
    decide
  have himport : Workplace.importPath ⟨emptyWorkplace.disk, mapDiscovery, ⟨.root, []⟩⟩
      ⟨.root, ["a.py"]⟩ = .ok "a.py" := by
    decide
  -- Both searches are in one outline, so that the text is parsed once.
  have hdetected : (Source.outline dumpText).toOption.any (fun outline =>
      detect mapDiscovery outline = mapDetected ∧ detect dumpDiscovery outline = dumpDetected) =
        true := by
    decide +kernel
  obtain ⟨outline, houtline, hfound⟩ := exists_of_any_toOption hdetected
  obtain ⟨hmap, hdumped⟩ := of_decide_eq_true hfound
  obtain ⟨other, hother, models, more, hmodels, hmore, hwidens⟩ :=
    analyzeText_insert_keyword hdiscovery houtline himport
  obtain rfl : dumpDiscovery = other := Except.ok.inj (hdump.symm.trans hother)
  rw [result_analyzeText_of_outline houtline himport, hmap] at hmodels
  rw [result_analyzeText_of_outline houtline ((importPath_same ..).trans himport),
    hdumped] at hmore
  obtain rfl := Except.ok.inj hmodels
  obtain rfl := Except.ok.inj hmore
  exact ⟨outline, houtline, hdiscovery, hdump, himport, hwidens⟩

/-- A text of a private class with a method for the keyword. -/
def privateText : String := "class _A:\n def dump(s): 0\n"

theorem outline_privateText :
    Source.outline privateText = .ok ⟨[.classDef "_A" [.functionDef "dump" []]]⟩ := by
  have houtline : Source.outline privateText = .ok ⟨[.classDef (Text.compatible "_A")
      [.functionDef (Text.compatible "dump") []]]⟩ :=
    outline_of_single (by decide) (by decide +kernel)
  rwa [Text.compatible_of_ascii (Text.ascii_of_all (by decide)),
    Text.compatible_of_ascii (Text.ascii_of_all (by decide))] at houtline

/-- A private class is not detected, whatever its methods are called. -/
theorem not_forall_detected_iff :
    ¬ ∀ (extensions front back : List String) (texts : Role → List String) (keyword : Keyword)
        (discovery other : Discovery) (disk : Disk) (root path : Path) (text importPath : String)
        (outline : Outline) (models more : List Model),
      Discovery.configured extensions (Function.update texts keyword.role (front ++ back)) =
        .ok discovery →
      Discovery.configured extensions
        (Function.update texts keyword.role (front ++ keyword.text :: back)) = .ok other →
      Source.outline text = .ok outline →
      Workplace.importPath ⟨disk, discovery, root⟩ path = .ok importPath →
      (analyzeText ⟨disk, discovery, root⟩ path text).result = .ok models →
      (analyzeText ⟨disk, other, root⟩ path text).result = .ok more →
      ∀ name, name ∈ more.map Model.name ↔
        name ∈ models.map Model.name ∨ Marks keyword outline name := by
  intro h
  have himport : Workplace.importPath ⟨emptyWorkplace.disk, mapDiscovery, ⟨.root, []⟩⟩
      ⟨.root, ["a.py"]⟩ = .ok "a.py" := by
    decide
  have hsame : Workplace.importPath ⟨emptyWorkplace.disk, dumpDiscovery, ⟨.root, []⟩⟩
      ⟨.root, ["a.py"]⟩ = .ok "a.py" :=
    (importPath_same ..).trans himport
  have hiff := h [] [] ["to_map"] (fun _ => []) dumpKeyword mapDiscovery dumpDiscovery
    _ _ _ _ _ _ _ _
    (by decide) (by decide) outline_privateText himport
    (result_analyzeText_of_outline outline_privateText himport)
    (result_analyzeText_of_outline outline_privateText hsame) "_A"
  have hpublic : Public "dump" := isPublic_iff.mp (by decide)
  have hmarks : Marks dumpKeyword ⟨[.classDef "_A" [.functionDef "dump" []]]⟩ "_A" :=
    ⟨_, ⟨[], [], rfl, by simp⟩, "dump", ⟨[], by simp, hpublic, by decide⟩, List.infix_rfl⟩
  exact absurd (hiff.mpr (.inr hmarks)) (by decide)

end Workplace

end ProviderGen
