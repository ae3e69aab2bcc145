import ProviderGen.Proofs.Exactness
import ProviderGen.Proofs.Irrelevance

namespace ProviderGen

/-- A path leads further down than another one. -/
def Path.IsAbove (directory path : Path) : Prop :=
  path.anchor = directory.anchor ∧ ∃ rest, rest ≠ [] ∧ path.names = directory.names ++ rest

namespace Path

variable {directory path : Path} {name other : String}

theorem isAbove_child (directory : Path) (name : String) :
    directory.IsAbove (directory.child name) :=
  ⟨rfl, [name], by simp, rfl⟩

theorem IsAbove.trans {between : Path} (h : directory.IsAbove between)
    (hpath : between.IsAbove path) : directory.IsAbove path := by
  obtain ⟨hanchor, rest, hrest, hnames⟩ := h
  obtain ⟨hanchor', rest', -, hnames'⟩ := hpath
  exact ⟨hanchor'.trans hanchor, rest ++ rest', by simp [hrest], by simp [hnames', hnames]⟩

theorem not_isAbove_child : ¬ (directory.child name).IsAbove (directory.child other) := by
  rintro ⟨-, rest, hrest, hnames⟩
  have hlength := congrArg List.length hnames
  have hpositive := List.length_pos_iff.mpr hrest
  simp only [child_names, List.length_append, List.length_singleton] at hlength
  omega

theorem IsAbove.name_eq (h : (directory.child name).IsAbove path)
    (h' : (directory.child other).IsAbove path) : name = other := by
  obtain ⟨-, rest, -, hnames⟩ := h
  obtain ⟨-, rest', -, hnames'⟩ := h'
  simpa [List.append_assoc] using
    congrArg (·[directory.names.length]?) (hnames.symm.trans hnames')

end Path

namespace Collection

open Node

variable {setting : Setting} {disk : Disk} {discovery : Discovery} {listing found : Listing}
  {place : List String} {shown root path : Path} {entries : List (String × Node)}
  {files : List Path}

theorem result_collect_of_directoryAt? (h : disk.directoryAt? root = some (place, entries)) :
    (collect disk discovery root).result =
      (collectNode ⟨disk, discovery⟩ place root (.directory entries)).result := by
  simp only [collect, h]
  cases hnode : collectNode ⟨disk, discovery⟩ place root (.directory entries) with
  | mk remarks result => cases result <;> simp [Logged.debug]

theorem result_collectEntries_eq_ok_iff :
    (collectEntries setting place shown entries).result = .ok files ↔
      ∃ blocks, List.Forall₂ (fun entry block =>
          (collectEntry setting place shown entry.1 entry.2).result = .ok block) entries blocks ∧
        files = blocks.flatten := by
  induction entries generalizing files with
  | nil => simp [collectEntries, eq_comm]
  | cons entry rest ih =>
      obtain ⟨name, node⟩ := entry
      simp only [collectEntries_cons, Logged.bind_eq, Logged.result_andThen_eq_ok, Logged.pure_eq,
        Except.ok.injEq, ih]
      constructor
      · rintro ⟨here, hhere, _, ⟨blocks, hblocks, rfl⟩, rfl⟩
        exact ⟨here :: blocks, .cons hhere hblocks, rfl⟩
      · rintro ⟨_, hall, rfl⟩
        cases hall with
        | cons hhere hblocks => exact ⟨_, hhere, _, ⟨_, hblocks, rfl⟩, rfl⟩

theorem Reached.trans {last : Listing} (h : Reached listing found) (hlast : Reached found last) :
    Reached listing last := by
  induction h with
  | here listing => exact hlast
  | inside hentry hname _ ih => exact .inside hentry hname (ih hlast)

theorem Reached.shown_cases (h : Reached listing found) :
    found.shown = listing.shown ∨ listing.shown.IsAbove found.shown := by
  induction h with
  | here listing => exact .inl rfl
  | @inside listing found name entries _ _ _ ih =>
      have hchild := listing.shown.isAbove_child name
      rcases ih with heq | habove
      · exact .inr (heq ▸ hchild)
      · exact .inr (hchild.trans habove)

theorem Reached.isAbove (h : Reached listing found) (hpath : found.shown.IsAbove path) :
    listing.shown.IsAbove path := by
  rcases h.shown_cases with heq | habove
  · exact heq ▸ hpath
  · exact habove.trans hpath

theorem Collects.isAbove (h : Collects setting listing path) : listing.shown.IsAbove path := by
  obtain ⟨found, hfound, name, -, rfl⟩ := h
  exact hfound.isAbove (found.shown.isAbove_child name)

theorem isAbove_of_mem_collectNode {node : Node}
    (h : (collectNode setting place shown node).result = .ok files) (hpath : path ∈ files) :
    shown.IsAbove path := by
  obtain ⟨inner, -, hcollects⟩ := (mem_collectNode node h).mp hpath
  exact hcollects.isAbove

theorem isAbove_of_mem_collectEntry {name : String} {node : Node}
    (h : (collectEntry setting place shown name node).result = .ok files) (hpath : path ∈ files) :
    (shown.child name).IsAbove path := by
  unfold collectEntry at h
  split at h
  · obtain rfl := Except.ok.inj h
    cases hpath
  · exact isAbove_of_mem_collectNode h hpath

theorem isAbove_of_mem_collectEntries
    (h : (collectEntries setting place shown entries).result = .ok files) (hpath : path ∈ files) :
    ∃ entry ∈ entries, (shown.child entry.1).IsAbove path := by
  obtain ⟨name, inner, hentry, -, hcollects⟩ := (mem_collectEntries entries h).mp hpath
  exact ⟨_, hentry, hcollects.isAbove⟩

theorem exists_block_of_mem {name : String} {inner : List (String × Node)}
    (hentries : entries.Pairwise fun first second => first.1 < second.1)
    (hentry : (name, .directory inner) ∈ entries) (hname : name ∉ excludedDirectories)
    (h : (collectEntries setting place shown entries).result = .ok files) :
    ∃ before block after, files = before ++ block ++ after ∧
      (collectNode setting (place ++ [name]) (shown.child name) (.directory inner)).result =
        .ok block ∧
      ∀ path, path ∈ before ∨ path ∈ after → ¬ (shown.child name).IsAbove path := by
  induction entries generalizing files with
  | nil => cases hentry
  | cons first rest ih =>
      obtain ⟨hless, hrest⟩ := List.pairwise_cons.mp hentries
      obtain ⟨key, node⟩ := first
      simp only [collectEntries_cons, Logged.bind_eq, Logged.result_andThen_eq_ok, Logged.pure_eq,
        Except.ok.injEq] at h
      obtain ⟨here, hhere, others, hothers, rfl⟩ := h
      rcases List.mem_cons.mp hentry with heq | hmem
      · obtain ⟨rfl, rfl⟩ := Prod.mk.inj heq
        rw [collectEntry, if_neg hname] at hhere
        refine ⟨[], here, others, by simp, hhere, ?_⟩
        rintro path (hpath | hpath) habove
        · cases hpath
        · obtain ⟨other, hother, habove'⟩ := isAbove_of_mem_collectEntries hothers hpath
          exact (hless other hother).ne (habove.name_eq habove')
      · obtain ⟨before, block, after, rfl, hblock, houtside⟩ := ih hrest hmem hothers
        refine ⟨here ++ before, block, after, by simp, hblock, ?_⟩
        rintro path (hpath | hpath) habove
        · rcases List.mem_append.mp hpath with hpath | hpath
          · have hfirst := isAbove_of_mem_collectEntry hhere hpath
            exact (hless _ hmem).ne (hfirst.name_eq habove)
          · exact houtside path (.inl hpath) habove
        · exact houtside path (.inr hpath) habove

/-- What is collected from a directory that is reached is a block of what is collected from the one
that it is reached from, with nothing else from below it. -/
theorem Reached.exists_block (h : Reached listing found)
    (hordered : (Node.directory listing.entries).Ordered)
    (hfiles : (collectNode setting listing.place listing.shown
      (.directory listing.entries)).result = .ok files) :
    ∃ before block after, files = before ++ block ++ after ∧
      (collectNode setting found.place found.shown (.directory found.entries)).result =
        .ok block ∧
      ∀ path, path ∈ before ∨ path ∈ after → ¬ found.shown.IsAbove path := by
  induction h generalizing files with
  | here listing => exact ⟨[], files, [], by simp, hfiles, by simp⟩
  | @inside listing found name entries hentry hname hreached ih =>
      simp only [collectNode, Logged.bind_eq, Logged.result_andThen_eq_ok, Logged.pure_eq,
        Except.ok.injEq] at hfiles
      obtain ⟨here, hhere, below, hbelow, rfl⟩ := hfiles
      obtain ⟨before, block, after, rfl, hblock, houtside⟩ :=
        exists_block_of_mem hordered.pairwise hentry hname hbelow
      obtain ⟨front, inner, back, rfl, hinner, hinside⟩ := ih (hordered.of_mem hentry) hblock
      refine ⟨here ++ before ++ front, inner, back ++ after, by simp, hinner, ?_⟩
      intro path hpath habove
      have hchild : (listing.shown.child name).IsAbove path := hreached.isAbove habove
      simp only [List.mem_append] at hpath
      rcases hpath with ((hpath | hpath) | hpath) | (hpath | hpath)
      · obtain ⟨other, -, rfl⟩ := (mem_collectHere hhere).mp hpath
        exact Path.not_isAbove_child hchild
      · exact houtside path (.inl hpath) hchild
      · exact hinside path (.inl hpath) habove
      · exact hinside path (.inr hpath) habove
      · exact houtside path (.inr hpath) hchild

theorem exists_blocks_of_collectNode
    (h : (collectNode setting place shown (.directory entries)).result = .ok files) :
    ∃ here blocks, files = here ++ blocks.flatten ∧
      (∀ path ∈ here, ∃ name, path = shown.child name) ∧
      List.Forall₂ (fun inside block => (collectNode setting (place ++ [inside.1])
        (shown.child inside.1) (.directory inside.2)).result = .ok block)
          (visibleIn entries) blocks := by
  simp only [collectNode, Logged.bind_eq, Logged.result_andThen_eq_ok, Logged.pure_eq,
    Except.ok.injEq] at h
  obtain ⟨here, hhere, below, hbelow, rfl⟩ := h
  rw [collectEntries_visibleIn, result_collectEntries_eq_ok_iff] at hbelow
  obtain ⟨blocks, hblocks, rfl⟩ := hbelow
  refine ⟨here, blocks, rfl, ?_, ?_⟩
  · intro path hpath
    obtain ⟨name, -, rfl⟩ := (mem_collectHere hhere).mp hpath
    exact ⟨name, rfl⟩
  · have hvisible : ∀ inside ∈ visibleIn entries, inside.1 ∉ excludedDirectories :=
      fun _ hinside => (mem_visibleIn.mp hinside).2
    have hall := (List.forall₂_and_left _ _).mpr ⟨hvisible, List.forall₂_map_left_iff.mp hblocks⟩
    refine hall.imp ?_
    rintro inside block ⟨hname, hblock⟩
    rwa [collectEntry, if_neg hname] at hblock

theorem ReachedFrom.directoryAt?_eq (h : ReachedFrom disk root listing)
    (hordered : disk.root.Ordered) (hnamed : disk.root.Named) :
    disk.directoryAt? listing.shown = some (listing.place, listing.entries) := by
  obtain ⟨place, entries, hdirectory, hreached⟩ := h
  obtain ⟨hlocate, -⟩ := Disk.find?_of_directoryAt? hdirectory
  have hlocated := hreached.locate hordered hnamed hlocate
  rw [Disk.directoryAt?, hlocated]

theorem ReachedFrom.inside (h : ReachedFrom disk root listing) {name : String}
    {inner : List (String × Node)} (hentry : (name, .directory inner) ∈ listing.entries)
    (hname : name ∉ excludedDirectories) :
    ReachedFrom disk root ⟨listing.place ++ [name], listing.shown.child name, inner⟩ := by
  obtain ⟨place, entries, hdirectory, hreached⟩ := h
  exact ⟨place, entries, hdirectory, hreached.trans (.inside hentry hname (.here _))⟩

/-- How what is collected from a directory is made up: the paths of its own files, the names of the
directories in it, and what is collected from each of these. -/
structure Composed (disk : Disk) (discovery : Discovery) (listing : Listing) (here : List Path)
    (names : List String) (blocks : List (List Path)) : Prop where
  child_of_here : ∀ path ∈ here, ∃ name, path = listing.shown.child name
  ascending : names.Pairwise (· < ·)
  mem_names_iff : ∀ name, name ∈ names ↔
    name ∉ excludedDirectories ∧ ∃ inner, (name, Node.directory inner) ∈ listing.entries
  collected : List.Forall₂ (fun name block =>
    (collect disk discovery (listing.shown.child name)).result = .ok block ∧
      ∀ path ∈ block, (listing.shown.child name).IsAbove path) names blocks

/-- What is collected from a directory that is reached is a block of what is collected from the
root, and holds exactly the paths from below that directory. -/
theorem collect_compositional (hordered : disk.root.Ordered) (hnamed : disk.root.Named)
    (h : (collect disk discovery root).result = .ok files)
    (hreached : ReachedFrom disk root listing) :
    ∃ before block after, files = before ++ block ++ after ∧
      (collect disk discovery listing.shown).result = .ok block ∧
      (∀ path ∈ block, listing.shown.IsAbove path) ∧
      (∀ path, path ∈ before ∨ path ∈ after → ¬ listing.shown.IsAbove path) ∧
      ∃ here names blocks, block = here ++ blocks.flatten ∧
        Composed disk discovery listing here names blocks := by
  obtain ⟨place, entries, hdirectory, hinside⟩ := id hreached
  have hroot := hordered.of_find? (Disk.find?_of_directoryAt? hdirectory).2
  have hfound := hreached.directoryAt?_eq hordered hnamed
  have hlisting := hordered.of_find? (Disk.find?_of_directoryAt? hfound).2
  rw [result_collect_of_directoryAt? hdirectory] at h
  obtain ⟨before, block, after, rfl, hblock, houtside⟩ := hinside.exists_block hroot h
  refine ⟨before, block, after, rfl, ?_, fun _ => isAbove_of_mem_collectNode hblock, houtside, ?_⟩
  · rw [result_collect_of_directoryAt? hfound, hblock]
  obtain ⟨here, blocks, rfl, hhere, hblocks⟩ := exists_blocks_of_collectNode hblock
  refine ⟨here, (visibleIn listing.entries).map Prod.fst, blocks, rfl, hhere, ?_, ?_, ?_⟩
  · exact List.pairwise_map.mpr (pairwise_visibleIn hlisting.pairwise)
  · intro name
    simp [mem_visibleIn, and_comm]
  · rw [List.forall₂_map_left_iff]
    have hall := (List.forall₂_and_left _ _).mpr ⟨fun _ hinside => hinside, hblocks⟩
    refine hall.imp ?_
    rintro inside inner ⟨hinside, hinner⟩
    obtain ⟨hentry, hname⟩ := mem_visibleIn.mp hinside
    have hdirectory := (hreached.inside hentry hname).directoryAt?_eq hordered hnamed
    refine ⟨?_, fun _ => isAbove_of_mem_collectNode hinner⟩
    rw [result_collect_of_directoryAt? hdirectory, hinner]

/-- A directory with a file that declares a model, a directory with a companion in it, and one that
is passed over. -/
def branchEntries : List (String × Node) :=
  [("build", .directory [("owl.py", .file (Text.encode "class Owl: to_json"))]),
    ("kennel", .directory [("dog.g.py", .file [])]),
    ("owl.py", .file (Text.encode "class Owl: to_json"))]

/-- A directory with that one between another one and a file. -/
def yardEntries : List (String × Node) :=
  [("aviary", .directory [("cat.py", .file (Text.encode "class Cat: to_json"))]),
    ("barn", .directory branchEntries),
    ("bee.py", .file (Text.encode "class Bee: to_json"))]

/-- A disk with these directories, and a link to them. -/
def branchDisk : Disk where
  root := .directory [("app", .directory yardEntries), ("link", .link "app")]
  current := []
  home := "/"

/-- The directory in the middle of that tree, by way of a link to the tree. -/
def branchListing : Listing := ⟨["app", "barn"], ⟨.root, ["link", "barn"]⟩, branchEntries⟩

/-- What is collected from that disk, by way of the link. -/
def branchPaths : List Path :=
  [⟨.root, ["link", "bee.py"]⟩, ⟨.root, ["link", "aviary", "cat.py"]⟩,
    ⟨.root, ["link", "barn", "owl.py"]⟩, ⟨.root, ["link", "barn", "kennel", "dog.py"]⟩]

theorem plain_yardEntries : (Node.directory yardEntries).Plain := by
  have hsingle : ∀ name content, isEntryName name →
      (Node.directory [(name, .file content)]).Plain :=
    fun name content hname => .directory (by simp) (by simpa using hname)
      (by simpa using .file content)
  have hbranch : (Node.directory branchEntries).Plain := by
    refine .directory (by decide) (by decide) ?_
    simp [branchEntries, hsingle, isEntryName, Node.Plain.file]
  refine .directory (by decide) (by decide) ?_
  simp [yardEntries, hsingle, hbranch, isEntryName, Node.Plain.file]

theorem ordered_branchDisk : branchDisk.root.Ordered :=
  .directory (by decide) (by simpa using ⟨plain_yardEntries.ordered, .link "app"⟩)

theorem named_branchDisk : branchDisk.root.Named :=
  .directory (by decide) (by simpa using ⟨plain_yardEntries.named, .link "app"⟩)

theorem collect_compositional_branchDisk :
    branchDisk.root.Ordered ∧ branchDisk.root.Named ∧
      (collect branchDisk .standard ⟨.root, ["link"]⟩).result = .ok branchPaths ∧
      ReachedFrom branchDisk ⟨.root, ["link"]⟩ branchListing ∧
      ∃ before block after, branchPaths = before ++ block ++ after ∧
        (collect branchDisk .standard branchListing.shown).result = .ok block ∧
        (∀ path ∈ block, branchListing.shown.IsAbove path) ∧
        (∀ path, path ∈ before ∨ path ∈ after → ¬ branchListing.shown.IsAbove path) ∧
        ∃ here names blocks, block = here ++ blocks.flatten ∧
          Composed branchDisk .standard branchListing here names blocks := by
  have hcollect : (collect branchDisk .standard ⟨.root, ["link"]⟩).result = .ok branchPaths := by
    decide +kernel
  have hreached : ReachedFrom branchDisk ⟨.root, ["link"]⟩ branchListing :=
    ⟨["app"], yardEntries, rfl, .inside (by simp [yardEntries]) (by decide) (.here _)⟩
  exact ⟨ordered_branchDisk, named_branchDisk, hcollect, hreached,
    collect_compositional ordered_branchDisk named_branchDisk hcollect hreached⟩

end Collection

end ProviderGen
