import ProviderGen.ModuleName
import Mathlib.Data.List.Basic
import Mathlib.Data.String.Basic

namespace ProviderGen

/-- What the name of a file may have after the name of its module: nothing, or a dot and more
characters, none of them a dot. -/
def IsSuffix (text : String) : Prop :=
  text = "" ∨ ∃ ending : String, ending ≠ "" ∧ '.' ∉ ending.toList ∧ text = "." ++ ending

/-- The files that are a module with some segments: one of the module's name, and one of the package
file's name in a directory of the module's name. -/
inductive IsFileOf : List String → Path → Prop
  | module {above : List String} {last suffix : String}
      (hfree : ∀ segment ∈ above ++ [last], Text.isFreeName segment = true)
      (hlast : last ≠ packageFile) (hsuffix : IsSuffix suffix) :
      IsFileOf (above ++ [last]) ⟨.relative, above ++ [last ++ suffix]⟩
  | package {segments : List String} {suffix : String}
      (hfree : ∀ segment ∈ segments, Text.isFreeName segment = true)
      (hsome : segments ≠ []) (hsuffix : IsSuffix suffix) :
      IsFileOf segments ⟨.relative, segments ++ [packageFile ++ suffix]⟩

namespace Text

theorem not_mem_of_isFreeName {name : String} {c : Char} (h : isFreeName name = true)
    (hpart : isIdentifierPart c = false) (hstart : isIdentifierStart c = false) :
    c ∉ name.toList := by
  have hname : isIdentifier name.toList = true := (Bool.and_eq_true_iff.mp h).1
  cases hchars : name.toList with
  | nil => simp
  | cons first rest =>
      rw [hchars, isIdentifier, Bool.and_eq_true, List.all_eq_true] at hname
      rintro (_ | ⟨_, hmem⟩)
      · simp [hstart] at hname
      · simp [hname.2 c hmem] at hpart

theorem ne_empty_of_isFreeName {name : String} (h : isFreeName name = true) : name ≠ "" := by
  rintro rfl
  exact absurd h (by decide)

end Text

section Suffix

variable {name stem : String}

theorem dot_not_mem_of_isFreeName (h : Text.isFreeName name = true) : '.' ∉ name.toList :=
  Text.not_mem_of_isFreeName h (by decide) (by decide)

theorem pieces_eq_singleton (hstem : '.' ∉ stem.toList) : Text.pieces '.' stem = [stem] := by
  have hjoined := Text.pieces_intercalate '.' (List.cons_ne_nil stem []) (by simpa using hstem)
  simpa using hjoined

theorem pieces_append_dot {ending : String} (hstem : '.' ∉ stem.toList)
    (hending : '.' ∉ ending.toList) :
    Text.pieces '.' (stem ++ ("." ++ ending)) = [stem, ending] := by
  have hjoined : stem ++ ("." ++ ending) = (String.singleton '.').intercalate [stem, ending] := by
    rw [← String.append_assoc]
    rfl
  rw [hjoined]
  exact Text.pieces_intercalate '.' (by simp) (by simpa using ⟨hstem, hending⟩)

theorem withoutSuffix_eq_iff (hfree : Text.isFreeName stem = true) :
    withoutSuffix name = stem ↔ ∃ suffix, IsSuffix suffix ∧ name = stem ++ suffix := by
  have hdot := dot_not_mem_of_isFreeName hfree
  have hstem := Text.ne_empty_of_isFreeName hfree
  constructor
  · intro h
    simp only [withoutSuffix] at h
    split at h
    · exact ⟨"", .inl rfl, by simpa using h⟩
    next hparts =>
      obtain ⟨hsuffix, -⟩ := not_or.mp (by simpa using hparts)
      cases hlast : (Text.pieces '.' name).getLast? with
      | none => exact absurd (List.getLast?_eq_none_iff.mp hlast) (Text.pieces_ne_nil '.' name)
      | some ending =>
          -- The last piece is the suffix. The pieces before it are the stem, which is not empty.
          have hpieces := List.dropLast_append_getLast? ending hlast
          refine ⟨"." ++ ending, .inr ⟨ending, by simpa [hlast] using hsuffix, ?_, rfl⟩, ?_⟩
          · exact Text.not_mem_of_mem_pieces (List.mem_of_getLast? hlast)
          · have hnil : (Text.pieces '.' name).dropLast ≠ [] := by
              intro hnil
              simp [hnil, ← h] at hstem
            have hname := Text.intercalate_pieces '.' name
            rw [← hpieces, String.intercalate_append_of_ne_nil hnil (by simp),
              String.intercalate_singleton] at hname
            rw [← hname, ← h, String.append_assoc]
            rfl
  · rintro ⟨suffix, rfl | ⟨ending, hsome, hending, rfl⟩, rfl⟩
    · simp [withoutSuffix, pieces_eq_singleton hdot]
    · simp [withoutSuffix, pieces_append_dot hdot hending, hsome, hstem]

end Suffix

theorem isFreeName_packageFile : Text.isFreeName packageFile = true := by decide

theorem moduleSegments_child (directory : Path) (name : String) :
    moduleSegments (directory.child name) =
      if withoutSuffix name = packageFile then directory.segments
      else directory.segments ++ [withoutSuffix name] := by
  simp [moduleSegments]

theorem anchor_eq_relative {path : Path}
    (hfree : ∀ segment ∈ path.segments, Text.isFreeName segment = true) :
    path.anchor = .relative := by
  cases hanchor : path.anchor with
  | relative => rfl
  | root => exact absurd (hfree "/" (by simp [Path.segments, hanchor, Anchor.text])) (by decide)
  | doubleRoot =>
      exact absurd (hfree "//" (by simp [Path.segments, hanchor, Anchor.text])) (by decide)

theorem isFileOf_child_iff {directory : Path} {name : String} {segments : List String} :
    IsFileOf segments (directory.child name) ↔
      moduleSegments (directory.child name) = segments ∧ segments ≠ [] ∧
        ∀ segment ∈ segments, Text.isFreeName segment = true := by
  rw [moduleSegments_child]
  constructor
  · intro h
    obtain ⟨anchor, names⟩ := directory
    generalize hpath : (⟨anchor, names⟩ : Path).child name = path at h
    cases h with
    | @module above last suffix hfree hlast hsuffix =>
        obtain ⟨rfl, hnames⟩ := Path.mk.inj hpath
        obtain ⟨rfl, hname⟩ := List.append_inj' hnames rfl
        obtain rfl : name = last ++ suffix := by simpa using hname
        have hwithout := (withoutSuffix_eq_iff (hfree last (by simp))).mpr ⟨suffix, hsuffix, rfl⟩
        rw [hwithout, if_neg hlast]
        exact ⟨rfl, by simp, hfree⟩
    | @package _ suffix hfree hsome hsuffix =>
        obtain ⟨rfl, hnames⟩ := Path.mk.inj hpath
        obtain ⟨rfl, hname⟩ := List.append_inj' hnames rfl
        obtain rfl : name = packageFile ++ suffix := by simpa using hname
        have hwithout := (withoutSuffix_eq_iff isFreeName_packageFile).mpr ⟨suffix, hsuffix, rfl⟩
        rw [if_pos hwithout]
        exact ⟨rfl, hsome, hfree⟩
  · rintro ⟨rfl, hsome, hfree⟩
    by_cases hpackage : withoutSuffix name = packageFile
    · rw [if_pos hpackage] at hsome hfree ⊢
      obtain ⟨suffix, hsuffix, rfl⟩ := (withoutSuffix_eq_iff isFreeName_packageFile).mp hpackage
      have hanchor := anchor_eq_relative hfree
      obtain ⟨_, names⟩ := directory
      obtain rfl := hanchor
      exact .package hfree hsome hsuffix
    · rw [if_neg hpackage] at hfree ⊢
      obtain ⟨hdirectory, hlast⟩ := List.forall_mem_append.mp hfree
      have hstem := hlast (withoutSuffix name) (by simp)
      have hself : withoutSuffix name = withoutSuffix name := rfl
      obtain ⟨suffix, hsuffix, hname⟩ := (withoutSuffix_eq_iff hstem).mp hself
      have hanchor := anchor_eq_relative hdirectory
      obtain ⟨_, names⟩ := directory
      obtain rfl := hanchor
      have hpath : (⟨.relative, names⟩ : Path).child name =
          ⟨.relative, names ++ [withoutSuffix name ++ suffix]⟩ := by
        rw [← hname]
        rfl
      rw [hpath]
      exact .module hfree hpackage hsuffix

theorem IsFileOf.names_ne_nil {segments : List String} {path : Path} (h : IsFileOf segments path) :
    path.names ≠ [] := by
  cases h <;> simp

theorem IsFileOf.segments_spec {segments : List String} {path : Path} (h : IsFileOf segments path) :
    moduleSegments path = segments ∧ segments ≠ [] ∧
      ∀ segment ∈ segments, Text.isFreeName segment = true := by
  obtain ⟨anchor, names⟩ := path
  rcases List.eq_nil_or_concat names with rfl | ⟨front, last, rfl⟩
  · exact absurd rfl h.names_ne_nil
  · rw [List.concat_eq_append] at h ⊢
    exact (@isFileOf_child_iff ⟨anchor, front⟩ last segments).mp h

theorem moduleName_eq_ok_iff {importPath module : String} :
    moduleName importPath = .ok module ↔
      ∃ segments, IsFileOf segments (.ofString importPath) ∧ module = ".".intercalate segments := by
  have hread : ∀ name ∈ (Path.ofString importPath).names, name ≠ "" := by
    simp +contextual [Path.ofString]
  unfold moduleName
  generalize Path.ofString importPath = path at hread
  rcases List.eq_nil_or_concat path.names with hnil | ⟨front, last, hnames⟩
  · have hnone : ∀ segments, ¬ IsFileOf segments path := fun _ h => h.names_ne_nil hnil
    simp [Path.name, hnil, hnone]
  · obtain ⟨anchor, names⟩ := path
    obtain rfl : names = front ++ [last] := by simpa using hnames
    have hlast : last ≠ "" := hread last (by simp)
    have hchild : (⟨anchor, front ++ [last]⟩ : Path) = (⟨anchor, front⟩ : Path).child last := rfl
    simp only [hchild, Path.name_child, hlast, if_false, isFileOf_child_iff]
    generalize moduleSegments ((⟨anchor, front⟩ : Path).child last) = found
    constructor
    · intro h
      split at h
      · cases h
      next hsome =>
      split at h
      · cases h
      next hnone =>
      exact ⟨found, ⟨rfl, hsome, by simpa using hnone⟩, (Except.ok.inj h).symm⟩
    · rintro ⟨segments, ⟨rfl, hsome, hfree⟩, rfl⟩
      have hnone : found.find? (fun segment => !Text.isFreeName segment) = none := by
        simpa using hfree
      rw [if_neg hsome, hnone]

theorem segments_eq_of_intercalate_eq {segments others : List String} (hsome : segments ≠ [])
    (hsome' : others ≠ []) (hfree : ∀ segment ∈ segments, Text.isFreeName segment = true)
    (hfree' : ∀ segment ∈ others, Text.isFreeName segment = true)
    (h : ".".intercalate segments = ".".intercalate others) : segments = others := by
  -- Free names have no dots, so the pieces of the module name are its segments.
  have hpieces : ∀ {names : List String}, names ≠ [] →
      (∀ name ∈ names, Text.isFreeName name = true) →
      Text.pieces '.' (".".intercalate names) = names := fun hnames hnamesFree =>
    Text.pieces_intercalate '.' hnames fun name hname =>
      dot_not_mem_of_isFreeName (hnamesFree name hname)
  rw [← hpieces hsome hfree, h, hpieces hsome' hfree']

theorem moduleName_eq_intercalate_iff {importPath other : String} {segments : List String}
    (hother : IsFileOf segments (.ofString other)) :
    moduleName importPath = .ok (".".intercalate segments) ↔
      IsFileOf segments (.ofString importPath) := by
  obtain ⟨-, hsome, hfree⟩ := hother.segments_spec
  rw [moduleName_eq_ok_iff]
  constructor
  · rintro ⟨found, hfile, heq⟩
    obtain ⟨-, hsome', hfree'⟩ := hfile.segments_spec
    rwa [segments_eq_of_intercalate_eq hsome hsome' hfree hfree' heq]
  · intro hfile
    exact ⟨segments, hfile, rfl⟩

/-- Two paths have one module name exactly if they are files of one module. -/
theorem moduleName_eq_iff {importPath other module : String}
    (h : moduleName importPath = .ok module) :
    moduleName importPath = moduleName other ↔ ∃ segments,
      IsFileOf segments (.ofString importPath) ∧ IsFileOf segments (.ofString other) := by
  obtain ⟨found, hfound, rfl⟩ := moduleName_eq_ok_iff.mp h
  rw [h, @eq_comm _ (Except.ok _), moduleName_eq_intercalate_iff hfound]
  constructor
  · intro hother
    exact ⟨found, hfound, hother⟩
  · rintro ⟨segments, hfile, hother⟩
    rwa [← hfound.segments_spec.1, hfile.segments_spec.1]

end ProviderGen
