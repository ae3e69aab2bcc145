import ProviderGen.Proofs.Collected
import ProviderGen.Proofs.Modules

namespace ProviderGen

/-- A relative path as it is written in full: no part of it is empty or a dot. -/
def IsCanonical (text : String) : Prop :=
  ∀ part ∈ Text.pieces '/' text, part ≠ "" ∧ part ≠ "."

instance (text : String) : Decidable (IsCanonical text) :=
  inferInstanceAs (Decidable (∀ part ∈ Text.pieces '/' text, part ≠ "" ∧ part ≠ "."))

/-- A module name with slashes for dots. -/
def slashed (module : String) : String :=
  String.ofList (module.toList.map fun c => if c = '.' then '/' else c)

section Texts

variable {text : String} {names segments : List String}

theorem ofString_of_isCanonical (h : IsCanonical text) :
    Path.ofString text = ⟨.relative, Text.pieces '/' text⟩ := by
  have hslashes : text.toList.takeWhile (· == '/') = [] := by
    cases hchars : text.toList with
    | nil => rfl
    | cons first rest =>
        have hfirst : first ≠ '/' := by
          rintro rfl
          have hempty : "" ∈ Text.pieces '/' text := by simp [Text.pieces, hchars, Text.split]
          exact (h "" hempty).1 rfl
        simp [hfirst]
  have hnames : (Text.pieces '/' text).filter (fun name => name ≠ "" && name ≠ ".") =
      Text.pieces '/' text := by
    refine List.filter_eq_self.mpr ?_
    intro part hpart
    simpa using h part hpart
  simp only [Path.ofString, hslashes, hnames]
  rfl

/-- Names that a path which is written in full can have. -/
def ArePathNames (names : List String) : Prop :=
  ∀ name ∈ names, name ≠ "" ∧ name ≠ "." ∧ '/' ∉ name.toList

theorem pieces_join (hsome : names ≠ []) (hnames : ArePathNames names) :
    Text.pieces '/' ("/".intercalate names) = names :=
  Text.pieces_intercalate '/' hsome fun name hname => (hnames name hname).2.2

theorem ofString_join (hsome : names ≠ []) (hnames : ArePathNames names) :
    Path.ofString ("/".intercalate names) = ⟨.relative, names⟩ := by
  have hpieces := pieces_join hsome hnames
  have hcanonical : IsCanonical ("/".intercalate names) := by
    intro part hpart
    rw [hpieces] at hpart
    exact ⟨(hnames part hpart).1, (hnames part hpart).2.1⟩
  rw [ofString_of_isCanonical hcanonical, hpieces]

theorem join_concat (hsome : names ≠ []) (last : String) :
    "/".intercalate (names ++ [last]) = "/".intercalate names ++ ("/" ++ last) := by
  rw [String.intercalate_append_of_ne_nil hsome (by simp), String.intercalate_singleton,
    String.append_assoc]

theorem join_append (above : List String) (last ending : String) :
    "/".intercalate (above ++ [last ++ ending]) = "/".intercalate (above ++ [last]) ++ ending := by
  by_cases habove : above = []
  · simp [habove]
  · rw [join_concat habove, join_concat habove, String.append_assoc, String.append_assoc]

theorem arePathNames_of_isFreeName (hfree : ∀ name ∈ names, Text.isFreeName name = true) :
    ArePathNames names := by
  intro name hname
  refine ⟨Text.ne_empty_of_isFreeName (hfree name hname), ?_, ?_⟩
  · rintro rfl
    exact dot_not_mem_of_isFreeName (hfree _ hname) (by decide)
  · exact Text.not_mem_of_isFreeName (hfree name hname) (by decide) (by decide)

theorem ArePathNames.source {last : String} (h : ArePathNames (names ++ [last])) :
    ArePathNames (names ++ [last ++ sourceSuffix]) := by
  intro name hname
  rcases List.mem_append.mp hname with hname | hname
  · exact h name (List.mem_append_left _ hname)
  · obtain rfl := List.mem_singleton.mp hname
    obtain ⟨-, -, hslash⟩ := h last (by simp)
    have hlong : 1 < (last ++ sourceSuffix).length := by
      rw [String.length_append, sourceSuffix]
      exact Nat.lt_add_left _ (by decide)
    refine ⟨?_, ?_, ?_⟩
    · intro hempty
      rw [hempty] at hlong
      exact absurd hlong (by decide)
    · intro hdot
      rw [hdot] at hlong
      exact absurd hlong (by decide)
    · simpa [sourceSuffix] using hslash

theorem map_intercalate {α β : Type} (f : α → β) (separator : List α) (pieces : List (List α)) :
    (separator.intercalate pieces).map f =
      (separator.map f).intercalate (pieces.map (List.map f)) := by
  induction pieces with
  | nil => rfl
  | cons piece pieces ih =>
      cases pieces with
      | nil => simp
      | cons next others =>
          rw [List.intercalate_cons_cons, List.map_append, List.map_append, ih, List.map_cons,
            List.map_cons, List.map_cons, List.intercalate_cons_cons]

theorem slashed_join (hdot : ∀ segment ∈ segments, '.' ∉ segment.toList) :
    slashed (".".intercalate segments) = "/".intercalate segments := by
  have hkept : ∀ segment ∈ segments,
      segment.toList.map (fun c => if c = '.' then '/' else c) = segment.toList := by
    intro segment hsegment
    refine (List.map_congr_left fun c hc => if_neg ?_).trans (List.map_id' _)
    rintro rfl
    exact hdot segment hsegment hc
  rw [slashed, ← String.toList_inj, String.toList_ofList, String.toList_intercalate,
    String.toList_intercalate, map_intercalate, List.map_map]
  exact congrArg _ (List.map_congr_left hkept)

end Texts

section Sources

variable {segments : List String} {path : Path}

theorem isSource_of_append {front last : String} (h : isSource (front ++ ("/" ++ last))) :
    isSource last := by
  have hsuffix : sourceSuffix.toList <:+ front.toList ++ '/' :: last.toList := by
    simpa [isSource, List.isSuffixOf_iff_suffix] using h
  rw [isSource, List.isSuffixOf_iff_suffix]
  rcases List.suffix_or_suffix_of_suffix hsuffix (List.suffix_append _ _) with h | h
  · rcases List.suffix_cons_iff.mp h with heq | h
    · exact absurd heq (by simp [sourceSuffix])
    · exact h
  · exact absurd (h.mem (List.mem_cons_self ..)) (by decide)

theorem isSource_append {last : String} (front : String) (h : isSource last) :
    isSource (front ++ last) := by
  rw [isSource, List.isSuffixOf_iff_suffix] at h ⊢
  rw [String.toList_append]
  exact h.trans (List.suffix_append _ _)

theorem isSource_toString {front : List String} {name : String} (h : isSource name) :
    isSource (⟨.relative, front ++ [name]⟩ : Path).toString := by
  have htext : (⟨.relative, front ++ [name]⟩ : Path).toString =
      "/".intercalate (front ++ [name]) := by
    cases front <;> simp [Path.toString, Anchor.text]
  rw [htext]
  by_cases hnil : front = []
  · simpa [hnil] using h
  · rw [String.intercalate_append_of_ne_nil hnil (by simp), String.intercalate_singleton]
    exact isSource_append _ h

theorem isSource_name_ofString {importPath : String} (h : isSource importPath) :
    isSource (Path.ofString importPath).name := by
  obtain ⟨front, last, hpieces⟩ :=
    (List.eq_nil_or_concat (Text.pieces '/' importPath)).resolve_left (Text.pieces_ne_nil _ _)
  rw [List.concat_eq_append] at hpieces
  have hlast : isSource last := by
    have himport := Text.intercalate_pieces '/' importPath
    rw [hpieces] at himport
    by_cases hnil : front = []
    · obtain rfl : last = importPath := by simpa [hnil] using himport
      exact h
    · rw [String.intercalate_append_of_ne_nil hnil (by simp), String.intercalate_singleton,
        String.append_assoc] at himport
      exact isSource_of_append (himport ▸ h)
  have hsome : last ≠ "" ∧ last ≠ "." := by
    constructor <;> rintro rfl <;> exact absurd hlast (by decide)
  simpa [Path.name, Path.ofString, hpieces, hsome] using hlast

theorem isSuffix_sourceSuffix : IsSuffix sourceSuffix :=
  .inr ⟨"py", by decide, by decide, rfl⟩

theorem eq_sourceSuffix {stem suffix : String} (hstem : Text.isFreeName stem = true)
    (hsuffix : IsSuffix suffix) (hsource : isSource (stem ++ suffix)) :
    suffix = sourceSuffix := by
  have hdot := dot_not_mem_of_isFreeName hstem
  rw [Collection.isSource_iff] at hsource
  rcases hsuffix with rfl | ⟨ending, -, hending, rfl⟩
  · simp [pieces_eq_singleton hdot] at hsource
  · rw [pieces_append_dot hdot hending] at hsource
    obtain rfl : ending = "py" := by simpa using hsource
    rfl

theorem IsFileOf.of_source (h : IsFileOf segments path) (hsource : isSource path.name) :
    (∃ above last, segments = above ++ [last] ∧ last ≠ packageFile ∧
        path = ⟨.relative, above ++ [last ++ sourceSuffix]⟩) ∨
      path = ⟨.relative, segments ++ [packageFile ++ sourceSuffix]⟩ := by
  cases h with
  | @module above last suffix hfree hlast hsuffix =>
      obtain rfl := eq_sourceSuffix (hfree last (by simp)) hsuffix
        (by simpa [Path.name] using hsource)
      exact .inl ⟨above, last, rfl, hlast, rfl⟩
  | @package _ suffix hfree hsome hsuffix =>
      obtain rfl := eq_sourceSuffix isFreeName_packageFile hsuffix
        (by simpa [Path.name] using hsource)
      exact .inr rfl

end Sources

section Files

variable {text module : String} {segments : List String}

/-- The path of the source file of a module, below the import root. -/
def moduleText (segments : List String) : String := "/".intercalate segments ++ sourceSuffix

/-- The path of the package file of a module, below the import root. -/
def packageText (segments : List String) : String :=
  "/".intercalate segments ++ ("/" ++ (packageFile ++ sourceSuffix))

theorem isFileOf_moduleText (hsome : segments ≠ []) (hlast : segments.getLast? ≠ some packageFile)
    (hfree : ∀ segment ∈ segments, Text.isFreeName segment = true) :
    IsFileOf segments (.ofString (moduleText segments)) := by
  obtain ⟨above, last, rfl⟩ := (List.eq_nil_or_concat' segments).resolve_left hsome
  rw [moduleText, ← join_append, ofString_join (by simp) (arePathNames_of_isFreeName hfree).source]
  exact .module hfree (by simpa using hlast) isSuffix_sourceSuffix

theorem isFileOf_packageText (hsome : segments ≠ [])
    (hfree : ∀ segment ∈ segments, Text.isFreeName segment = true) :
    IsFileOf segments (.ofString (packageText segments)) := by
  have hnames : ∀ name ∈ segments ++ [packageFile], Text.isFreeName name = true :=
    List.forall_mem_append.mpr ⟨hfree, by simpa using isFreeName_packageFile⟩
  rw [packageText, ← join_concat hsome,
    ofString_join (by simp) (arePathNames_of_isFreeName hnames).source]
  exact .package hfree hsome isSuffix_sourceSuffix

theorem text_of_isFileOf (hcanonical : IsCanonical text) (hsource : isSource text)
    (h : IsFileOf segments (.ofString text)) :
    text = moduleText segments ∨ text = packageText segments := by
  have hjoined := Text.intercalate_pieces '/' text
  obtain ⟨-, hsome, -⟩ := h.segments_spec
  rcases h.of_source (isSource_name_ofString hsource) with ⟨above, last, rfl, -, hpath⟩ | hpath
  · rw [ofString_of_isCanonical hcanonical] at hpath
    rw [(Path.mk.inj hpath).2] at hjoined
    exact .inl (hjoined.symm.trans (join_append above last sourceSuffix))
  · rw [ofString_of_isCanonical hcanonical] at hpath
    rw [(Path.mk.inj hpath).2] at hjoined
    exact .inr (hjoined.symm.trans (join_concat hsome _))

/-- A source file that has a module name is the file of that module or its package file, and all
segments of the name are free. The other way around, both files of a module with free segments have
its name, where that of the package file is no name for the first of them. -/
theorem moduleName_determines :
    (∀ text module, IsCanonical text → isSource text = true → moduleName text = .ok module →
      (∀ segment ∈ Text.pieces '.' module, Text.isFreeName segment = true) ∧
        (text = slashed module ++ ".py" ∨ text = slashed module ++ "/__init__.py")) ∧
    ∀ segments : List String, segments ≠ [] →
      (∀ segment ∈ segments, Text.isFreeName segment = true) →
        moduleName ("/".intercalate segments ++ "/__init__.py") = .ok (".".intercalate segments) ∧
        (segments.getLast? ≠ some "__init__" →
          moduleName ("/".intercalate segments ++ ".py") = .ok (".".intercalate segments)) := by
  constructor
  · intro text module hcanonical hsource h
    obtain ⟨segments, hfile, rfl⟩ := moduleName_eq_ok_iff.mp h
    obtain ⟨-, hsome, hfree⟩ := hfile.segments_spec
    have hdot : ∀ segment ∈ segments, '.' ∉ segment.toList :=
      fun segment hsegment => dot_not_mem_of_isFreeName (hfree segment hsegment)
    have hpieces : Text.pieces '.' (".".intercalate segments) = segments :=
      Text.pieces_intercalate '.' hsome hdot
    rw [hpieces, slashed_join hdot]
    exact ⟨hfree, text_of_isFileOf hcanonical hsource hfile⟩
  · intro segments hsome hfree
    constructor
    · exact moduleName_eq_ok_iff.mpr ⟨segments, isFileOf_packageText hsome hfree, rfl⟩
    · intro hlast
      exact moduleName_eq_ok_iff.mpr ⟨segments, isFileOf_moduleText hsome hlast hfree, rfl⟩

theorem moduleName_determines_cats :
    IsCanonical "zoo/cats/__init__.py" ∧ isSource "zoo/cats/__init__.py" = true ∧
      moduleName "zoo/cats/__init__.py" = .ok "zoo.cats" ∧
      (∀ segment ∈ Text.pieces '.' "zoo.cats", Text.isFreeName segment = true) ∧
      ("zoo/cats/__init__.py" = slashed "zoo.cats" ++ ".py" ∨
        "zoo/cats/__init__.py" = slashed "zoo.cats" ++ "/__init__.py") ∧
      ["zoo", "cats"] ≠ [] ∧ (∀ segment ∈ ["zoo", "cats"], Text.isFreeName segment = true) ∧
      ["zoo", "cats"].getLast? ≠ some "__init__" ∧
      moduleName ("/".intercalate ["zoo", "cats"] ++ ".py") = .ok (".".intercalate ["zoo", "cats"]) := by
  obtain ⟨hpath, hfiles⟩ := moduleName_determines
  have hcanonical : IsCanonical "zoo/cats/__init__.py" := by decide
  have hsource : isSource "zoo/cats/__init__.py" = true := by decide
  have hname : moduleName "zoo/cats/__init__.py" = .ok "zoo.cats" := by decide
  obtain ⟨hsegments, htext⟩ := hpath _ _ hcanonical hsource hname
  have hsome : ["zoo", "cats"] ≠ [] := by decide
  have hfree : ∀ segment ∈ ["zoo", "cats"], Text.isFreeName segment = true := by decide
  have hlast : ["zoo", "cats"].getLast? ≠ some "__init__" := by decide
  exact ⟨hcanonical, hsource, hname, hsegments, htext, hsome, hfree, hlast,
    (hfiles _ hsome hfree).2 hlast⟩

end Files

end ProviderGen
