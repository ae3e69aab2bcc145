import ProviderGen.Interpreter.Common
import ProviderGen.Proofs.Likeness
import ProviderGen.Proofs.Rearrangement
import ProviderGen.Proofs.Regeneration

namespace ProviderGen

open Node

/-- Names that no file system gives to an entry: the one that leads up from a directory, and those
with a null character. -/
def isEntryName (name : String) : Bool := name ≠ ".." && !name.toList.contains '\x00'

theorem isEntryName_iff {name : String} : isEntryName name ↔
    name ≠ ".." ∧ name.toList.contains '\x00' = false := by
  simp [isEntryName]

/-- Every entry of a tree has a name that a file system may give to it. -/
inductive Node.Named : Node → Prop
  | file (content : List UInt8) : Named (.file content)
  | link (target : String) : Named (.link target)
  | directory {entries : List (String × Node)} (hnames : ∀ entry ∈ entries, isEntryName entry.1)
      (hnodes : ∀ entry ∈ entries, Named entry.2) : Named (.directory entries)

/-- A tree without links, in which every directory lists its entries in order and under names of
their own. -/
structure Node.Plain (root : Node) : Prop where
  ordered : root.Ordered
  linkFree : root.LinkFree
  named : root.Named

theorem Node.Named.of_child? {entries : List (String × Node)} {name : String} {node : Node}
    (h : (Node.directory entries).Named) (hnode : child? name entries = some node) : node.Named := by
  cases h with
  | directory _ hnodes => exact hnodes _ (mem_of_child?_eq_some hnode)

theorem Node.Named.of_find? {root node : Node} {names : List String} (h : root.Named)
    (hfind : root.find? names = some node) : node.Named :=
  find?_preserves Node.Named.of_child? h hfind

theorem Node.Plain.of_find? {root node : Node} {names : List String} (h : root.Plain)
    (hfind : root.find? names = some node) : node.Plain where
  ordered := h.ordered.of_find? hfind
  linkFree := h.linkFree.of_find? hfind
  named := h.named.of_find? hfind

theorem Node.Plain.file (content : List UInt8) : (Node.file content).Plain :=
  ⟨.file content, .file content, .file content⟩

theorem Node.Plain.directory {entries : List (String × Node)}
    (hentries : entries.Pairwise fun first second => first.1 < second.1)
    (hnames : ∀ entry ∈ entries, isEntryName entry.1) (hnodes : ∀ entry ∈ entries, entry.2.Plain) :
    (Node.directory entries).Plain where
  ordered := .directory hentries fun entry hentry => (hnodes entry hentry).ordered
  linkFree := .directory fun entry hentry => (hnodes entry hentry).linkFree
  named := .directory hnames fun entry hentry => (hnodes entry hentry).named

theorem Node.LinkFree.at?_cases {root : Node} (h : root.LinkFree) (names : List String) :
    root.at? names = none ∨ (∃ content, root.at? names = some (.file content)) ∨
      root.at? names = some (.directory []) := by
  cases hfind : root.find? names with
  | none => exact .inl (at?_eq_none_iff.mpr hfind)
  | some node =>
      cases node with
      | file content => exact .inr (.inl ⟨content, at?_eq_file_iff.mpr hfind⟩)
      | link target => exact absurd hfind (h.find?_ne_link _ _)
      | directory entries => exact .inr (.inr (at?_eq_directory_iff.mpr ⟨entries, hfind⟩))

namespace Disk

variable {disk other : Disk} {path : Path} {name : String} {goal : List String}
  {entries : List (String × Node)}

theorem Walked.child {root : Node} {follow : Bool} {bound links : Nat} {here names : List String}
    (h : Walked root follow bound links here names ⟨goal, some (.directory entries)⟩)
    (hlink : ∀ target, root.find? (goal ++ [name]) ≠ some (.link target)) (hup : name ≠ "..") :
    Walked root follow (bound + 1) links here (names ++ [name])
      ⟨goal ++ [name], root.find? (goal ++ [name])⟩ := by
  generalize hplace : (⟨goal, some (.directory entries)⟩ : Place) = place at h
  induction h with
  | stop bound links here =>
      obtain rfl : goal = here := congrArg Place.names hplace
      cases hfind : root.find? (goal ++ [name]) with
      | none => exact .absent hup hfind
      | some node =>
          cases node with
          | file content => exact .file hup hfind
          | link target => exact absurd hfind (hlink target)
          | directory inner => exact .directory hup hfind (hfind ▸ .stop _ _ _)
  | up _ ih => exact .up (ih hplace)
  | absent _ _ => cases congrArg Place.node hplace
  | directory hname hfind _ ih => exact .directory hname hfind (ih hplace)
  | file _ _ => cases congrArg Place.node hplace
  | linkItself _ _ _ => cases congrArg Place.node hplace
  | link hname hfind _ _ ih =>
      have hwalked := ih hplace
      rw [List.append_assoc] at hwalked
      exact .link hname hfind (.inl (by simp)) hwalked

theorem holdsNull_child (path : Path) (name : String) :
    (path.child name).holdsNull = (path.holdsNull || name.toList.contains '\x00') := by
  simp [Path.holdsNull]

theorem locate_child (hlink : ∀ target, child? name entries ≠ some (.link target))
    (hentry : isEntryName name) (h : disk.locate path = .ok ⟨goal, some (.directory entries)⟩) :
    disk.locate (path.child name) = .ok ⟨goal ++ [name], child? name entries⟩ := by
  obtain ⟨hup, hnull⟩ := isEntryName_iff.mp hentry
  obtain ⟨habove, hwalk⟩ := search_eq_ok_iff.mp h
  have hgoal : disk.root.find? goal = some (.directory entries) :=
    (walked_of_walk hwalk).node_eq.symm
  have hentry : disk.root.find? (goal ++ [name]) = child? name entries := by
    rw [find?_append, hgoal, Option.bind_some, find?_cons]
    simp
  have hwalked := (walked_of_walk hwalk).child (hentry ▸ hlink) hup
  rw [hentry] at hwalked
  refine search_eq_ok_iff.mpr ⟨by rw [holdsNull_child, habove, hnull, Bool.or_false], ?_⟩
  rw [Path.child_names, List.length_append]
  exact walk_of_walked hwalked

theorem readBytes_of_holdsNull (h : path.holdsNull) :
    disk.readBytes path = .error ⟨.nullCharacter, path.toString, none⟩ := by
  simp [readBytes, locate, search, h]

theorem readBytes_child (hfree : disk.root.LinkFree) (hentry : isEntryName name)
    (h : disk.locate path = .ok ⟨goal, some (.directory entries)⟩) :
    disk.readBytes (path.child name) =
      match (directory entries).at? [name] with
      | some (.file content) => .ok content
      | some _ => .error ⟨.isDirectory, (path.child name).toString, none⟩
      | none => .error ⟨.notFound, (path.child name).toString, none⟩ := by
  have hgoal := hfree.of_find? (walked_of_search h).node_eq.symm
  have hlink : ∀ target, child? name entries ≠ some (.link target) := by
    intro target hchild
    cases hgoal.of_child? hchild
  simp only [readBytes, locate_child hlink hentry h, at?_cons]
  cases child? name entries with
  | none => rfl
  | some node => cases node <;> simp [bare]

theorem resolve_congr (hfree : disk.root.LinkFree) (hfree' : other.root.LinkFree)
    (hcurrent : disk.current = other.current) (path : Path) :
    disk.resolve path = other.resolve path := by
  rw [resolve_of_linkFree hfree, resolve_of_linkFree hfree', base, base, hcurrent,
    resolveFrom_congr hfree' hfree]

end Disk

namespace Collection

variable {disk other : Disk} {discovery : Discovery} {listing found : Listing}
  {same : String → List UInt8 → List UInt8 → Prop}

theorem Reached.locate (h : Reached listing found) (hordered : disk.root.Ordered)
    (hnamed : disk.root.Named)
    (hlisting : disk.locate listing.shown = .ok ⟨listing.place, some (.directory listing.entries)⟩) :
    disk.locate found.shown = .ok ⟨found.place, some (.directory found.entries)⟩ := by
  induction h with
  | here listing => exact hlisting
  | @inside listing found name entries hentry _ _ ih =>
      apply ih
      have hplace : disk.root.find? listing.place = some (.directory listing.entries) :=
        (Disk.walked_of_search hlisting).node_eq.symm
      have hchild := child?_eq_some_of_mem (hordered.of_find? hplace).pairwise hentry
      have hname : isEntryName name := by
        cases hnamed.of_find? hplace with
        | directory hnames _ => exact hnames _ hentry
      rw [Disk.locate_child (by simp [hchild]) hname hlisting, hchild]

theorem Alike.reached (hreached : Reached listing found) (listing' : Listing)
    (hordered : (Node.directory listing.entries).Ordered)
    (hordered' : (Node.directory listing'.entries).Ordered) (hshown : listing.shown = listing'.shown)
    (h : Alike same (.directory listing.entries) (.directory listing'.entries)) :
    ∃ found', Reached listing' found' ∧ found.shown = found'.shown ∧
      Alike same (.directory found.entries) (.directory found'.entries) := by
  induction hreached generalizing listing' with
  | here listing => exact ⟨listing', .here listing', hshown, h⟩
  | @inside listing found name entries hentry hname _ ih =>
      have hvisible : Visible [name] := by simpa [Visible] using hname
      have hdirectory := (h.directory_iff [name] hvisible).mp
        ((at?_singleton_eq_directory_iff hordered).mpr ⟨entries, hentry⟩)
      obtain ⟨others, hentry'⟩ := (at?_singleton_eq_directory_iff hordered').mp hdirectory
      have halike := h.child hname (child?_eq_some_of_mem hordered.pairwise hentry)
        (child?_eq_some_of_mem hordered'.pairwise hentry')
      obtain ⟨found', hreached, hfound⟩ := ih ⟨listing'.place ++ [name],
        listing'.shown.child name, others⟩ (hordered.of_mem hentry) (hordered'.of_mem hentry')
          (by rw [hshown]) halike
      exact ⟨found', .inside hentry' hname hreached, hfound⟩

/-- The content of a source file counts, unless it is a companion or has the name that a provider is
written to. -/
def SameOrdinary (discovery : Discovery) (name : String) (content content' : List UInt8) : Prop :=
  logicalName? discovery.markers name = none → name ≠ providerFile → content = content'

theorem isCandidate_of_sameOrdinary {name : String} {content content' : List UInt8}
    (h : SameOrdinary discovery name content content')
    (hordinary : logicalName? discovery.markers name = none) :
    isCandidate discovery name content = isCandidate discovery name content' := by
  by_cases hname : name = providerFile
  · simp [isCandidate, hname]
  · rw [h hordinary hname]

theorem not_excluded_of_isSource {name : String} (h : isSource name) :
    name ∉ excludedDirectories := by
  have hothers : ∀ name ∈ excludedDirectories, isSource name = false := by decide
  intro hmem
  rw [hothers name hmem] at h
  cases h

theorem Alike.at?_eq {entries others : List (String × Node)} {name : String}
    (h : Alike (SameOrdinary discovery) (.directory entries) (.directory others))
    (hfree : (Node.directory entries).LinkFree) (hfree' : (Node.directory others).LinkFree)
    (hsource : isSource name) (hordinary : logicalName? discovery.markers name = none)
    (hname : name ≠ providerFile) :
    (directory entries).at? [name] = (directory others).at? [name] := by
  have hdirectory := h.directory_iff [name] (by simpa [Visible] using not_excluded_of_isSource hsource)
  have hfile := h.source_iff [] name (by simp [Visible]) hsource
  have hcontent := fun content content' =>
    h.content_same [] name content content' (by simp [Visible]) hsource
  simp only [List.nil_append] at hfile hcontent
  -- Without links, what stands there is nothing, a file or a directory, and the same in both.
  rcases hfree.at?_cases [name] with hnone | ⟨content, hat⟩ | hat
  · rcases hfree'.at?_cases [name] with hnone' | ⟨content', hat'⟩ | hat'
    · rw [hnone, hnone']
    · obtain ⟨_, hat⟩ := hfile.mpr ⟨content', hat'⟩
      rw [hnone] at hat
      cases hat
    · rw [hdirectory.mpr hat'] at hnone
      cases hnone
  · obtain ⟨content', hat'⟩ := hfile.mp ⟨content, hat⟩
    rw [hat, hat', hcontent _ _ hat hat' hordinary hname]
  · rw [hat, hdirectory.mp hat]

end Collection

namespace Workplace

open Collection

variable {disk other : Disk} {discovery : Discovery} {source path : Path} {paths : List Path}

theorem importPath_congr (hfree : disk.root.LinkFree) (hfree' : other.root.LinkFree)
    (hcurrent : disk.current = other.current) (path : Path) :
    importPath ⟨disk, discovery, source⟩ path = importPath ⟨other, discovery, source⟩ path := by
  simp only [importPath, resolve, Disk.resolve_congr hfree hfree' hcurrent]

theorem readText_congr (h : disk.readBytes path = other.readBytes path) :
    readText ⟨disk, discovery, source⟩ path = readText ⟨other, discovery, source⟩ path := by
  simp only [readText, h]

theorem analyzeFrom_congr [Interpreter]
    (himport : ∀ path, importPath ⟨disk, discovery, source⟩ path =
      importPath ⟨other, discovery, source⟩ path)
    (hread : ∀ path ∈ paths, readText ⟨disk, discovery, source⟩ path =
      readText ⟨other, discovery, source⟩ path)
    (known : List (Model × Path)) :
    analyzeFrom ⟨disk, discovery, source⟩ known paths =
      analyzeFrom ⟨other, discovery, source⟩ known paths := by
  induction paths generalizing known with
  | nil => rfl
  | cons path paths ih =>
      obtain ⟨hfirst, hrest⟩ := List.forall_mem_cons.mp hread
      simp only [analyzeFrom, analyzeText, himport, hfirst, ih hrest]

end Workplace

namespace Collection

variable {disk other : Disk} {discovery : Discovery} {source : Path}

theorem ordinary_of_nameOf? {file : String × List UInt8} {name : String}
    (h : nameOf? discovery file = some name) : logicalName? discovery.markers name = none := by
  obtain ⟨other, content⟩ := file
  by_cases hsource : isSource other
  · cases hlogical : logicalName? discovery.markers other with
    | some target =>
        obtain rfl : target = name := by simpa [nameOf?_of_companion hsource hlogical] using h
        exact logicalName?_of_logicalName? hlogical
    | none =>
        rw [nameOf?_of_ordinary hsource hlogical] at h
        obtain ⟨-, heq⟩ := Option.ite_none_right_eq_some.mp h
        exact Option.some.inj heq ▸ hlogical
  · simp [nameOf?_of_not_source (by simpa using hsource)] at h

theorem readBytes_of_mem_collect {files : List Path} {path : Path} (hplain : disk.root.Plain)
    (hplain' : other.root.Plain) (hcompanion : disk.root.NoCompanion discovery.markers)
    (halike : Option.Rel (fun found found' =>
        Alike (SameOrdinary discovery) (.directory found.2) (.directory found'.2))
      (disk.directoryAt? source) (other.directoryAt? source))
    (hfiles : (collect disk discovery source).result = .ok files) (hpath : path ∈ files) :
    disk.readBytes path = other.readBytes path := by
  obtain ⟨_, hlast, hsource, hother⟩ :=
    name_of_mem_collect hplain.ordered hplain.linkFree hcompanion hfiles hpath
  obtain ⟨place, entries, hdirectory, hmem⟩ := mem_collect hfiles
  obtain ⟨found, hreached, name, ⟨file, content, -, hname⟩, rfl⟩ := (hmem path).mp hpath
  obtain rfl : name = _ := by simpa using hlast
  rw [hdirectory] at halike
  generalize hdirectory' : other.directoryAt? source = directory' at halike
  cases halike with
  | @some _ directory' halike =>
      obtain ⟨place', others⟩ := directory'
      obtain ⟨hlocate, hplace⟩ := Disk.find?_of_directoryAt? hdirectory
      obtain ⟨hlocate', hplace'⟩ := Disk.find?_of_directoryAt? hdirectory'
      obtain ⟨found', hreached', hshown, hfound⟩ := Alike.reached hreached
        ⟨place', source, others⟩ (hplain.of_find? hplace).ordered
        (hplain'.of_find? hplace').ordered rfl halike
      have hlocated := hreached.locate hplain.ordered hplain.named hlocate
      have hlocated' := hreached'.locate hplain'.ordered hplain'.named hlocate'
      have hfree := (hplain.of_find? (Disk.walked_of_search hlocated).node_eq.symm).linkFree
      have hfree' := (hplain'.of_find? (Disk.walked_of_search hlocated').node_eq.symm).linkFree
      have hsame := hfound.at?_eq hfree hfree' hsource (ordinary_of_nameOf? hname) hother
      by_cases hnull : name.toList.contains '\x00' = true
      · have hholds : (found.shown.child name).holdsNull := by
          rw [Disk.holdsNull_child, hnull, Bool.or_true]
        rw [Disk.readBytes_of_holdsNull hholds, Disk.readBytes_of_holdsNull hholds]
      · have hentry : isEntryName name := by
          refine isEntryName_iff.mpr ⟨?_, by simpa using hnull⟩
          rintro rfl
          exact absurd hsource (by decide)
        rw [Disk.readBytes_child hplain.linkFree hentry hlocated, hshown,
          Disk.readBytes_child hplain'.linkFree hentry hlocated', hsame]

/-- A search for models comes to the same on two disks, and makes the same remarks, if the
directories that it starts from look alike but for the contents of companions and of files with the
name of the provider. -/
theorem search_eq_of_alike [Interpreter] (hplain : disk.root.Plain) (hplain' : other.root.Plain)
    (hcompanion : disk.root.NoCompanion discovery.markers) (hcurrent : disk.current = other.current)
    (halike : Option.Rel (fun found found' =>
        Alike (SameOrdinary discovery) (.directory found.2) (.directory found'.2))
      (disk.directoryAt? source) (other.directoryAt? source)) :
    collect disk discovery source = collect other discovery source ∧
      ∀ files, (collect disk discovery source).result = .ok files →
        Workplace.analyze ⟨disk, discovery, source⟩ files =
            Workplace.analyze ⟨other, discovery, source⟩ files ∧
          ∀ className projectName,
            Workplace.providerText ⟨disk, discovery, source⟩ className projectName files =
              Workplace.providerText ⟨other, discovery, source⟩ className projectName files := by
  have hcollect : collect disk discovery source = collect other discovery source :=
    collect_congr (fun _ _ _ _ hsame hordinary => isCandidate_of_sameOrdinary hsame hordinary)
      hplain.linkFree hplain'.linkFree hplain.ordered hplain'.ordered halike
  refine ⟨hcollect, fun files hfiles => ?_⟩
  have hanalyze : Workplace.analyze ⟨disk, discovery, source⟩ files =
      Workplace.analyze ⟨other, discovery, source⟩ files := by
    rw [Workplace.analyze, Workplace.analyze, Workplace.analyzeFrom_congr
      (Workplace.importPath_congr hplain.linkFree hplain'.linkFree hcurrent)
      (fun _ hpath => Workplace.readText_congr
        (readBytes_of_mem_collect hplain hplain' hcompanion halike hfiles hpath))]
  refine ⟨hanalyze, fun className projectName => ?_⟩
  rw [Workplace.providerText, Workplace.providerText, hanalyze]

open Interpreter.Common

/-- A directory with a file that declares a model, a companion of that file, a provider, some notes,
and a directory that is passed over. -/
def catEntries (companion provider notes : List UInt8) (hidden : List (String × Node)) :
    List (String × Node) :=
  [("__pycache__", .directory hidden),
    ("cat.g.py", .file companion),
    ("cat.py", .file (Text.encode "class Cat:\n def to_json(s): 0\n")),
    (providerFile, .file provider),
    ("notes.txt", .file notes)]

def catDisk (companion provider notes : List UInt8) (hidden : List (String × Node)) : Disk where
  root := .directory [("app", .directory (catEntries companion provider notes hidden))]
  current := []
  home := "/"

section CatDisk

variable {companion provider notes companion' provider' notes' : List UInt8}
  {hidden hidden' : List (String × Node)}

theorem plain_catEntries (hhidden : (directory hidden).Plain) :
    (directory (catEntries companion provider notes hidden)).Plain := by
  refine .directory ?_ (by simp [catEntries, isEntryName, providerFile]) ?_
  · simp only [catEntries, List.pairwise_cons, List.forall_mem_cons]
    decide
  · simp [catEntries, hhidden, Node.Plain.file]

theorem plain_catDisk (hhidden : (directory hidden).Plain) :
    (catDisk companion provider notes hidden).root.Plain :=
  .directory (by simp) (by simp [isEntryName]) (by simpa using plain_catEntries hhidden)

theorem noCompanion_catDisk (hhidden : (directory hidden).NoCompanion Discovery.standard.markers) :
    (catDisk companion provider notes hidden).root.NoCompanion Discovery.standard.markers := by
  have hentries : (directory (catEntries companion provider notes hidden)).NoCompanion
      Discovery.standard.markers := by
    refine .directory ?_ (by simp [catEntries, hhidden, Node.NoCompanion.file])
    have hnames : ∀ name ∈ ["cat.g.py", "cat.py", providerFile, "notes.txt"],
        logicalName? Discovery.standard.markers name ≠ some providerFile := by decide
    intro name content hmem
    apply hnames name
    simp only [catEntries, List.mem_cons, Prod.mk.injEq, reduceCtorEq, and_false,
      false_or, List.not_mem_nil, or_false] at hmem
    simp only [List.mem_cons, List.not_mem_nil, or_false]
    tauto
  exact .directory (by simp) (by simpa using hentries)

theorem alike_catEntries (hhidden : (directory hidden).Plain) (hhidden' : (directory hidden').Plain) :
    Alike (SameOrdinary .standard) (.directory (catEntries companion provider notes hidden))
      (.directory (catEntries companion' provider' notes' hidden')) := by
  have hcompanion : logicalName? Discovery.standard.markers "cat.g.py" ≠ none := by decide
  have hsource : isSource "cat.g.py" ∧ isSource "cat.py" ∧ isSource providerFile := by decide
  have hother : isSource "notes.txt" = false := by decide
  refine .of_pairs (plain_catEntries hhidden).ordered (plain_catEntries hhidden').ordered ?_ ?_
  · simp only [catEntries, sourcesIn, List.filterMap_cons, fileOf?, List.filterMap_nil,
      List.filter_cons, hsource, hother, if_true, if_false, Bool.false_eq_true, List.filter_nil]
    refine .cons ⟨rfl, fun hordinary => absurd hordinary hcompanion⟩ (.cons ⟨rfl, fun _ _ => rfl⟩
      (.cons ⟨rfl, fun _ hname => absurd rfl hname⟩ .nil))
  · simp [catEntries, visibleIn, visible?, excludedDirectories, List.filterMap_cons]

theorem directoryAt?_catDisk :
    (catDisk companion provider notes hidden).directoryAt? ⟨.root, ["app"]⟩ =
      some (["app"], catEntries companion provider notes hidden) := rfl

/-- Such a disk with nothing else on it. -/
def quietCatDisk : Disk := catDisk [] [] [] []

/-- Such a disk with a companion that is no text, a provider that declares a model, and another file
for a model of the same name in the directory that is passed over. -/
def busyCatDisk : Disk :=
  catDisk [0xff] (Text.encode "class Dog:\n def to_json(s): 0\n") [0]
    [("cat.py", .file (Text.encode "class Cat:\n def to_json(s): 0\n"))]

theorem search_eq_of_alike_catDisk :
    quietCatDisk.root.Plain ∧ busyCatDisk.root.Plain ∧
      quietCatDisk.root.NoCompanion Discovery.standard.markers ∧
      quietCatDisk.current = busyCatDisk.current ∧
      Option.Rel (fun found found' =>
          Alike (SameOrdinary .standard) (.directory found.2) (.directory found'.2))
        (quietCatDisk.directoryAt? ⟨.root, ["app"]⟩) (busyCatDisk.directoryAt? ⟨.root, ["app"]⟩) ∧
      (collect busyCatDisk .standard ⟨.root, ["app"]⟩).result =
        .ok [⟨.root, ["app", "cat.py"]⟩] ∧
      (Workplace.analyze ⟨busyCatDisk, .standard, ⟨.root, ["app"]⟩⟩
        [⟨.root, ["app", "cat.py"]⟩]).result =
          .ok [⟨"Cat", "cat.py", .ofMethod (some "to_json"), .ofMethod none⟩] := by
  have hquiet : (directory []).Plain := .directory .nil (by simp) (by simp)
  have hbusy : (directory [("cat.py",
      .file (Text.encode "class Cat:\n def to_json(s): 0\n"))]).Plain :=
    .directory (by simp) (by simp [isEntryName]) (by simp [Node.Plain.file])
  have hcompanion : quietCatDisk.root.NoCompanion Discovery.standard.markers :=
    noCompanion_catDisk (.directory (by simp) (by simp))
  have halike : Option.Rel (fun found found' =>
        Alike (SameOrdinary .standard) (.directory found.2) (.directory found'.2))
      (quietCatDisk.directoryAt? ⟨.root, ["app"]⟩) (busyCatDisk.directoryAt? ⟨.root, ["app"]⟩) := by
    rw [quietCatDisk, busyCatDisk, directoryAt?_catDisk, directoryAt?_catDisk]
    exact .some (alike_catEntries hquiet hbusy)
  refine ⟨plain_catDisk hquiet, plain_catDisk hbusy, hcompanion, rfl, halike, ?_⟩
  obtain ⟨hcollect, hanalyze⟩ := search_eq_of_alike (plain_catDisk hquiet) (plain_catDisk hbusy)
    hcompanion rfl halike
  have hfiles : (collect quietCatDisk .standard ⟨.root, ["app"]⟩).result =
      .ok [⟨.root, ["app", "cat.py"]⟩] := by
    decide +kernel
  have hmodels : (Workplace.analyze ⟨quietCatDisk, .standard, ⟨.root, ["app"]⟩⟩
      [⟨.root, ["app", "cat.py"]⟩]).result =
        .ok [⟨"Cat", "cat.py", .ofMethod (some "to_json"), .ofMethod none⟩] := by
    decide +kernel
  exact ⟨hcollect ▸ hfiles, (hanalyze _ hfiles).1 ▸ hmodels⟩

end CatDisk

end Collection

end ProviderGen
