import ProviderGen.Proofs.Exactness
import ProviderGen.Proofs.Sorting

namespace ProviderGen

namespace Discovery

variable {discovery other : Discovery} {marker : String}

/-- Settings with one more configured extension. -/
def withExtension (discovery : Discovery) (extension : String) : Discovery :=
  { discovery with
    extensions := Text.sortOnce (discovery.extensions ++ (marker? extension).toList) }

theorem ofTexts_insert (front back : List String) (extension : String)
    (serialize deserialize : List String) :
    ofTexts (front ++ extension :: back) serialize deserialize =
      (ofTexts (front ++ back) serialize deserialize).map (·.withExtension extension) := by
  have hextensions : Text.sortOnce ((front ++ extension :: back).filterMap marker?) =
      Text.sortOnce (Text.sortOnce ((front ++ back).filterMap marker?) ++
        (marker? extension).toList) := by
    apply Text.sortOnce_eq_of_mem_iff
    intro text
    simp only [List.filterMap_append, List.filterMap_cons, List.mem_append, Text.mem_sortOnce]
    cases marker? extension with
    | none => simp
    | some marker =>
        simp only [List.mem_cons, Option.toList_some, List.not_mem_nil, or_false]
        tauto
  simp only [ofTexts, bind, Except.bind, hextensions]
  cases Keyword.configured .serialize serialize with
  | error error => rfl
  | ok serialize =>
      cases Keyword.configured .deserialize deserialize with
      | error error => rfl
      | ok deserialize => rfl

theorem mem_markers_withExtension {extension added : String} (h : marker? extension = some added) :
    marker ∈ (discovery.withExtension extension).markers ↔
      marker ∈ discovery.markers ∨ marker = added := by
  simp [markers, withExtension, h, or_assoc]

end Discovery

namespace Collection

variable {discovery other : Discovery} {file name segment : String} {content : List UInt8}

theorem nameOf?_congr (hkeywords : ∀ role, other.keywords role = discovery.keywords role)
    (h : ∀ segment ∈ innerSegments file,
      ("." ++ segment ∈ other.markers ↔ "." ++ segment ∈ discovery.markers)) :
    nameOf? other (file, content) = nameOf? discovery (file, content) := by
  have hcandidate : isCandidate other file content = isCandidate discovery file content := by
    simp only [isCandidate, mayDeclare, Discovery.mentionsAny, Discovery.mentions, hkeywords]
  simp only [nameOf?, logicalName?_congr h, hcandidate]

/-- The inner segments of the name that a file is collected by are those of the file that are no
markers. -/
theorem mem_innerSegments_of_nameOf? (h : nameOf? discovery (file, content) = some name) :
    segment ∈ innerSegments name ↔
      segment ∈ innerSegments file ∧ "." ++ segment ∉ discovery.markers := by
  by_cases hsource : isSource file
  · cases hlogical : logicalName? discovery.markers file with
    | some target =>
        obtain rfl : target = name := by
          simpa [nameOf?_of_companion hsource hlogical] using h
        exact mem_innerSegments_of_logicalName? hlogical
    | none =>
        obtain rfl : file = name := by
          rw [nameOf?_of_ordinary hsource hlogical] at h
          exact (Option.ite_none_right_eq_some.mp h).2 |> Option.some.inj
        refine (and_iff_left_of_imp ?_).symm
        intro hsegment hmarker
        obtain ⟨target, htarget⟩ := exists_logicalName?_iff.mpr ⟨segment, hsegment, hmarker⟩
        cases hlogical.symm.trans htarget
  · rw [nameOf?_of_not_source (by simpa using hsource)] at h
    cases h

section OneMore

variable {disk : Disk} {root : Path} {listing : Listing} {extension added : String}
  (hmarker : Discovery.marker? extension = some ("." ++ added))

include hmarker

theorem nameOf?_withExtension
    (h : added ∈ innerSegments file → "." ++ added ∈ discovery.markers) :
    nameOf? (discovery.withExtension extension) (file, content) =
      nameOf? discovery (file, content) := by
  refine nameOf?_congr ?_ ?_
  · intro role
    cases role <;> rfl
  · intro segment hsegment
    rw [Discovery.mem_markers_withExtension hmarker]
    refine or_iff_left_of_imp ?_
    intro heq
    obtain rfl : segment = added := by simpa using heq
    exact h hsegment

theorem nameOf?_withExtension_eq_some_iff (h : added ∈ innerSegments file) :
    nameOf? (discovery.withExtension extension) (file, content) = some name ↔
      isSource file ∧
        logicalName? (discovery.withExtension extension).markers file = some name := by
  obtain ⟨target, htarget⟩ := exists_logicalName?_iff.mpr
    ⟨added, h, (Discovery.mem_markers_withExtension hmarker).mpr (.inr rfl)⟩
  by_cases hsource : isSource file
  · rw [nameOf?_of_companion hsource htarget, htarget]
    exact (and_iff_right hsource).symm
  · rw [nameOf?_of_not_source (by simpa using hsource)]
    simp [hsource]

theorem wanted_withExtension_iff :
    Wanted ⟨disk, discovery.withExtension extension⟩ listing name ↔
      Wanted ⟨disk, discovery⟩ listing name ∧ added ∉ innerSegments name ∨
        ∃ file content, HasFile ⟨disk, discovery⟩ listing file content ∧ isSource file ∧
          added ∈ innerSegments file ∧
          logicalName? (discovery.withExtension extension).markers file = some name := by
  have hnew : "." ++ added ∈ (discovery.withExtension extension).markers :=
    (Discovery.mem_markers_withExtension hmarker).mpr (.inr rfl)
  have hfile : ∀ file content,
      HasFile ⟨disk, discovery.withExtension extension⟩ listing file content ↔
        HasFile ⟨disk, discovery⟩ listing file content := fun _ _ => Iff.rfl
  simp only [Wanted, holds_iff_hasFile, hfile]
  constructor
  · rintro ⟨file, content, hholds, hname⟩
    by_cases hadded : added ∈ innerSegments file
    · obtain ⟨hsource, hlogical⟩ := (nameOf?_withExtension_eq_some_iff hmarker hadded).mp hname
      exact .inr ⟨file, content, hholds, hsource, hadded, hlogical⟩
    · have hkept : added ∉ innerSegments name :=
        fun hmem => ((mem_innerSegments_of_nameOf? hname).mp hmem).2 hnew
      rw [nameOf?_withExtension hmarker fun hmem => absurd hmem hadded] at hname
      exact .inl ⟨⟨file, content, hholds, hname⟩, hkept⟩
  · rintro (⟨⟨file, content, hholds, hname⟩, hkept⟩ |
      ⟨file, content, hholds, hsource, hadded, hlogical⟩)
    · refine ⟨file, content, hholds, ?_⟩
      rw [nameOf?_withExtension hmarker]
      · exact hname
      · intro hadded
        -- A file with the segment lost it to its name, so the marker was there before.
        by_contra hmissing
        exact hkept ((mem_innerSegments_of_nameOf? hname).mpr ⟨hadded, hmissing⟩)
    · exact ⟨file, content, hholds,
        (nameOf?_withExtension_eq_some_iff hmarker hadded).mpr ⟨hsource, hlogical⟩⟩

/-- One more extension: a path is collected then exactly if it was collected before and its name
does not have the new segment, or it is that of the logical file of a source file with the segment,
in a directory that is reached. -/
theorem mem_collect_withExtension {files more : List Path}
    (h : (collect disk discovery root).result = .ok files)
    (hmore : (collect disk (discovery.withExtension extension) root).result = .ok more)
    (path : Path) :
    path ∈ more ↔ path ∈ files ∧ added ∉ innerSegments path.name ∨
      ∃ listing, ReachedFrom disk root listing ∧
        ∃ file content, HasFile ⟨disk, discovery⟩ listing file content ∧ isSource file ∧
          added ∈ innerSegments file ∧
          ∃ name, logicalName? (discovery.withExtension extension).markers file = some name ∧
            path = listing.shown.child name := by
  obtain ⟨place, entries, hdirectory, hfiles⟩ := mem_collect h
  obtain ⟨place', entries', hdirectory', hmore⟩ := mem_collect hmore
  obtain ⟨rfl, rfl⟩ : place = place' ∧ entries = entries' := by
    simpa using hdirectory.symm.trans hdirectory'
  rw [hmore, hfiles, Collects, Collects]
  simp only [wanted_withExtension_iff hmarker]
  constructor
  · rintro ⟨listing, hreached, name,
      ⟨hwanted, hkept⟩ | ⟨file, content, hfile, hsource, hadded, hname⟩, rfl⟩
    · exact .inl ⟨⟨listing, hreached, name, hwanted, rfl⟩, by simpa using hkept⟩
    · exact .inr ⟨listing, ⟨place, entries, hdirectory, hreached⟩, file, content, hfile, hsource,
        hadded, name, hname, rfl⟩
  · rintro (⟨⟨listing, hreached, name, hwanted, rfl⟩, hkept⟩ |
      ⟨listing, ⟨place', entries', hdirectory', hreached⟩, file, content, hfile, hsource, hadded,
        name, hname, rfl⟩)
    · exact ⟨listing, hreached, name, .inl ⟨hwanted, by simpa using hkept⟩, rfl⟩
    · obtain ⟨rfl, rfl⟩ : place = place' ∧ entries = entries' := by
        simpa using hdirectory.symm.trans hdirectory'
      exact ⟨listing, hreached, name, .inr ⟨file, content, hfile, hsource, hadded, hname⟩, rfl⟩

end OneMore

/-- A disk with a file that an extension turns into a companion, a companion that has another marker
too, and an ordinary file. -/
def draftDisk : Disk where
  root := .directory
    [("note.dto.py", .file (Text.encode "class Note: to_json")),
     ("user.dto.g.py", .file []),
     ("zoo.py", .file (Text.encode "class Zoo: to_json"))]
  current := []
  home := "/"

/-- The settings with that extension configured. -/
def draftDiscovery : Discovery := Discovery.standard.withExtension " .dto"

theorem ofTexts_draftDiscovery : Discovery.ofTexts [" .dto"] [] [] = .ok draftDiscovery :=
  Discovery.ofTexts_insert [] [] " .dto" [] []

/-- What is collected from the disk if nothing is configured. -/
def drafts : List Path :=
  [⟨.root, ["note.dto.py"]⟩, ⟨.root, ["user.dto.py"]⟩, ⟨.root, ["zoo.py"]⟩]

def settled : List Path :=
  [⟨.root, ["note.py"]⟩, ⟨.root, ["user.py"]⟩, ⟨.root, ["zoo.py"]⟩]

theorem mem_collect_withExtension_draftDisk :
    Discovery.ofTexts [] [] [] = .ok .standard ∧
      Discovery.ofTexts [" .dto"] [] [] = .ok draftDiscovery ∧
      Discovery.marker? " .dto" = some ("." ++ "dto") ∧
      (collect draftDisk .standard ⟨.root, []⟩).result = .ok drafts ∧
      (collect draftDisk draftDiscovery ⟨.root, []⟩).result = .ok settled ∧
      ∀ path, path ∈ settled ↔ path ∈ drafts ∧ "dto" ∉ innerSegments path.name ∨
        ∃ listing, ReachedFrom draftDisk ⟨.root, []⟩ listing ∧
          ∃ file content, HasFile ⟨draftDisk, .standard⟩ listing file content ∧ isSource file ∧
            "dto" ∈ innerSegments file ∧
            ∃ name, logicalName? draftDiscovery.markers file = some name ∧
              path = listing.shown.child name := by
  have hmarker : Discovery.marker? " .dto" = some ("." ++ "dto") := by decide
  have hdrafts : (collect draftDisk .standard ⟨.root, []⟩).result = .ok drafts := by decide +kernel
  have hsettled : (collect draftDisk draftDiscovery ⟨.root, []⟩).result = .ok settled := by
    decide +kernel
  exact ⟨rfl, ofTexts_draftDiscovery, hmarker, hdrafts, hsettled,
    mem_collect_withExtension hmarker hdrafts hsettled⟩

end Collection

end ProviderGen
