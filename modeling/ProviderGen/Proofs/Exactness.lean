import ProviderGen.Proofs.Collected
import ProviderGen.Proofs.Mention
import ProviderGen.Proofs.Order
import Mathlib.Data.List.Nodup

namespace ProviderGen.Collection

open Node

variable {setting : Setting} {listing found : Listing} {path : Path}

/-- A directory holds a file, or a link that leads to one. -/
def HasFile (setting : Setting) (listing : Listing) (name : String) (content : List UInt8) : Prop :=
  (name, .file content) ∈ listing.entries ∨
    ∃ target place, (name, .link target) ∈ listing.entries ∧
      setting.disk.locate ⟨.root, listing.place ++ [name]⟩ = .ok ⟨place, some (.file content)⟩

/-- An ordinary source file, the text of which mentions a class and a keyword. -/
def HasOrdinary (setting : Setting) (listing : Listing) (name : String) : Prop :=
  ∃ content, HasFile setting listing name content ∧ isSource name ∧
    logicalName? setting.discovery.markers name = none ∧
    let text := String.ofList (Text.unifyLines (Text.decodeLeniently content))
    "class".toList <:+: text.toList ∧ setting.discovery.Mentioned text

/-- A source file that is a companion of a logical file. -/
def HasCompanion (setting : Setting) (listing : Listing) (name : String) : Prop :=
  ∃ companion content, HasFile setting listing companion content ∧ isSource companion ∧
    logicalName? setting.discovery.markers companion = some name

theorem holds_iff_hasFile {name : String} {content : List UInt8} :
    Holds setting listing name content ↔ HasFile setting listing name content := by
  constructor
  · rintro ⟨node, hentry, hcontent⟩
    cases node with
    | file other =>
        obtain rfl : other = content := by simpa [contentOf] using hcontent
        exact .inl hentry
    | directory entries => simp [contentOf] at hcontent
    | link target =>
        simp only [contentOf] at hcontent
        split at hcontent
        next place other hlocate =>
          obtain rfl : other = content := by simpa using hcontent
          exact .inr ⟨target, place, hentry, hlocate⟩
        all_goals simp at hcontent
  · rintro (hentry | ⟨target, place, hentry, hlocate⟩)
    · exact ⟨_, hentry, rfl⟩
    · exact ⟨_, hentry, by simp [contentOf, hlocate]⟩

theorem wanted_iff {name : String} (hname : name ≠ providerFile) :
    Wanted setting listing name ↔
      HasOrdinary setting listing name ∨ HasCompanion setting listing name := by
  simp only [Wanted, holds_iff_hasFile]
  constructor
  · rintro ⟨file, content, hfile, hwanted⟩
    by_cases hsource : isSource file
    · cases hlogical : logicalName? setting.discovery.markers file with
      | some target =>
          obtain rfl : target = name := by
            simpa [nameOf?_of_companion hsource hlogical] using hwanted
          exact .inr ⟨file, content, hfile, hsource, hlogical⟩
      | none =>
          rw [nameOf?_of_ordinary hsource hlogical] at hwanted
          split at hwanted
          next hcandidate =>
            obtain rfl : file = name := Option.some.inj hwanted
            simp only [isCandidate, Bool.and_eq_true, mayDeclare_iff] at hcandidate
            exact .inl ⟨content, hfile, hsource, hlogical, hcandidate.2⟩
          next => cases hwanted
    · rw [nameOf?_of_not_source (by simpa using hsource)] at hwanted
      cases hwanted
  · rintro (⟨content, hfile, hsource, hlogical, hmention⟩ | ⟨file, content, hfile, hsource, hlogical⟩)
    · refine ⟨name, content, hfile, ?_⟩
      have hcandidate : isCandidate setting.discovery name content = true := by
        simp only [isCandidate, Bool.and_eq_true, decide_eq_true_eq, mayDeclare_iff]
        exact ⟨hname, hmention⟩
      rw [nameOf?_of_ordinary hsource hlogical, if_pos hcandidate]
    · exact ⟨file, content, hfile, nameOf?_of_companion hsource hlogical⟩

theorem Reached.names_eq (h : Reached listing found) :
    ∃ rest, found.shown.names = listing.shown.names ++ rest := by
  induction h with
  | here listing => exact ⟨[], by simp⟩
  | @inside listing found name entries _ _ _ ih =>
      obtain ⟨rest, hrest⟩ := ih
      exact ⟨name :: rest, by simp [hrest]⟩

theorem Collects.names_eq (h : Collects setting listing path) :
    ∃ rest, rest ≠ [] ∧ path.names = listing.shown.names ++ rest := by
  obtain ⟨found, hfound, name, -, rfl⟩ := h
  obtain ⟨rest, hrest⟩ := hfound.names_eq
  exact ⟨rest ++ [name], by simp, by simp [hrest]⟩

theorem nodup_freshNames (done names : List String) : (freshNames done names).Nodup := by
  induction names generalizing done with
  | nil => exact List.nodup_nil
  | cons name names ih =>
      unfold freshNames
      split
      · exact ih done
      · refine List.nodup_cons.mpr ⟨?_, ih (name :: done)⟩
        intro hmem
        exact (mem_freshNames.mp hmem).1 (List.mem_cons_self ..)

theorem nodup_collectHere {paths : List Path}
    (h : (collectHere setting listing).result = .ok paths) : paths.Nodup := by
  simp only [collectHere, Logged.bind_eq, Logged.result_andThen_eq_ok, Logged.ofExcept,
    Logged.pure_eq, Except.ok.injEq] at h
  obtain ⟨files, -, names, hnames, rfl⟩ := h
  obtain rfl := Except.ok.inj ((result_namesFrom (by simp) files).symm.trans hnames)
  refine List.Nodup.map ?_ (nodup_freshNames [] _)
  intro first second heq
  simpa using congrArg Path.name heq

mutual

/-- From an ordered tree no path is collected twice: the paths of a directory itself are shorter
than those of the directories in it, and these differ by the name of the directory. -/
theorem nodup_collectNode {place : List String} {shown : Path} {files : List Path} :
    ∀ node : Node, node.Ordered → (collectNode setting place shown node).result = .ok files →
      files.Nodup
  | .directory entries, hordered, h => by
      simp only [collectNode, Logged.bind_eq, Logged.result_andThen_eq_ok, Logged.pure_eq,
        Except.ok.injEq] at h
      obtain ⟨here, hhere, below, hbelow, rfl⟩ := h
      cases hordered with
      | directory hentries hnodes =>
          refine List.nodup_append.mpr ⟨nodup_collectHere hhere,
            nodup_collectEntries entries hentries hnodes hbelow, ?_⟩
          rintro path hpath _ hother rfl
          obtain ⟨name, -, rfl⟩ := (mem_collectHere hhere).mp hpath
          obtain ⟨inside, inner, -, -, hcollects⟩ := (mem_collectEntries entries hbelow).mp hother
          obtain ⟨rest, hrest, hnames⟩ := hcollects.names_eq
          have hlength := congrArg List.length hnames
          have hpositive := List.length_pos_iff.mpr hrest
          simp only [Path.child_names, List.length_append, List.length_singleton] at hlength
          omega
  | .file content, _, h => by
      obtain rfl : [] = files := by simpa [collectNode] using h
      exact List.nodup_nil
  | .link target, _, h => by
      obtain rfl : [] = files := by simpa [collectNode] using h
      exact List.nodup_nil

theorem nodup_collectEntries {place : List String} {shown : Path} {files : List Path} :
    ∀ entries : List (String × Node),
      (entries.Pairwise fun first second => first.1 < second.1) →
      (∀ entry ∈ entries, entry.2.Ordered) →
      (collectEntries setting place shown entries).result = .ok files → files.Nodup
  | [], _, _, h => by
      obtain rfl : [] = files := by simpa [collectEntries] using h
      exact List.nodup_nil
  | (name, node) :: rest, hentries, hnodes, h => by
      simp only [collectEntries_cons, Logged.bind_eq, Logged.result_andThen_eq_ok, Logged.pure_eq,
        Except.ok.injEq] at h
      obtain ⟨here, hhere, others, hothers, rfl⟩ := h
      obtain ⟨hless, hrest⟩ := List.pairwise_cons.mp hentries
      obtain ⟨hnode, hnodes⟩ := List.forall_mem_cons.mp hnodes
      by_cases hexcluded : name ∈ excludedDirectories
      · obtain rfl : [] = here := by simpa [collectEntry, hexcluded] using hhere
        exact nodup_collectEntries rest hrest hnodes hothers
      · have hhere : (collectNode setting (place ++ [name]) (shown.child name) node).result =
            .ok here := by
          simpa [collectEntry, hexcluded] using hhere
        refine List.nodup_append.mpr ⟨nodup_collectNode node hnode hhere,
          nodup_collectEntries rest hrest hnodes hothers, ?_⟩
        rintro path hpath _ hother rfl
        obtain ⟨inner, -, hcollects⟩ := (mem_collectNode node hhere).mp hpath
        obtain ⟨later, inside, hlater, -, hothers⟩ := (mem_collectEntries rest hothers).mp hother
        obtain ⟨back, -, hnames⟩ := hcollects.names_eq
        obtain ⟨back', -, hnames'⟩ := hothers.names_eq
        have heq : name = later := by
          simpa [List.append_assoc] using congrArg (·[shown.names.length]?) (hnames.symm.trans hnames')
        exact (hless _ hlater).ne heq

end

/-- A directory that collecting from a path reaches. -/
def ReachedFrom (disk : Disk) (root : Path) (listing : Listing) : Prop :=
  ∃ place entries, disk.directoryAt? root = some (place, entries) ∧
    Reached ⟨place, root, entries⟩ listing

/-- No path is collected twice. But for the file that the provider is written to, a path is collected
exactly if its directory is reached and holds an ordinary file of its name that may declare a model,
or a companion with its name as that of the logical file. -/
structure Exact (disk : Disk) (discovery : Discovery) (root : Path) (files : List Path) : Prop where
  nodup : files.Nodup
  child_mem_iff : ∀ directory name, name ≠ providerFile →
    (directory.child name ∈ files ↔
      ∃ listing, ReachedFrom disk root listing ∧ listing.shown = directory ∧
        (HasOrdinary ⟨disk, discovery⟩ listing name ∨ HasCompanion ⟨disk, discovery⟩ listing name))

/-- Collecting is exact on every tree in which no directory holds a name twice. -/
theorem collect_exact {disk : Disk} {discovery : Discovery} {root : Path} {files : List Path}
    (hordered : disk.root.Ordered) (h : (collect disk discovery root).result = .ok files) :
    Exact disk discovery root files := by
  obtain ⟨place, entries, hdirectory, hmem⟩ := mem_collect h
  have hnode := hordered.of_find? (Disk.find?_of_directoryAt? hdirectory).2
  constructor
  · simp only [collect, hdirectory, Logged.bind_eq, Logged.result_andThen_eq_ok, Logged.pure_eq,
      Logged.debug, Except.ok.injEq] at h
    obtain ⟨_, hfiles, -, -, rfl⟩ := h
    exact nodup_collectNode _ hnode hfiles
  · intro directory name hname
    rw [hmem, Collects]
    constructor
    · rintro ⟨listing, hreached, other, hwanted, hpath⟩
      obtain rfl : name = other := by simpa using congrArg Path.name hpath
      refine ⟨listing, ⟨place, entries, hdirectory, hreached⟩, ?_, (wanted_iff hname).mp hwanted⟩
      simpa using congrArg Path.parent hpath.symm
    · rintro ⟨listing, ⟨place', entries', hdirectory', hreached⟩, rfl, hwanted⟩
      obtain ⟨rfl, rfl⟩ : place' = place ∧ entries' = entries := by
        simpa using hdirectory'.symm.trans hdirectory
      exact ⟨listing, hreached, name, (wanted_iff hname).mpr hwanted, rfl⟩

/-- A disk with an ordinary file, a link to it, a companion without its logical file, and a directory
that is passed over. -/
def surveyDisk : Disk where
  root := .directory
    [("build", .directory [("user.py", .file (Text.encode "class User: to_json"))]),
     ("link.py", .link "src/user.py"),
     ("src", .directory
       [("note.g.py", .file []), ("user.py", .file (Text.encode "class User: to_json"))])]
  current := []
  home := "/"

def surveyed : List Path :=
  [⟨.root, ["link.py"]⟩, ⟨.root, ["src", "note.py"]⟩, ⟨.root, ["src", "user.py"]⟩]

theorem ordered_surveyDisk : surveyDisk.root.Ordered := by
  have hbuild : (Node.directory [("user.py", .file (Text.encode "class User: to_json"))]).Ordered :=
    .directory (by simp) (by simpa using .file _)
  have hsource : (Node.directory [("note.g.py", .file []),
      ("user.py", .file (Text.encode "class User: to_json"))]).Ordered :=
    .directory (by decide) (by simpa using ⟨.file _, .file _⟩)
  refine .directory (by decide) ?_
  simpa using ⟨hbuild, .link _, hsource⟩

theorem collect_exact_surveyDisk :
    surveyDisk.root.Ordered ∧
      (collect surveyDisk .standard ⟨.root, []⟩).result = .ok surveyed ∧
      Exact surveyDisk .standard ⟨.root, []⟩ surveyed := by
  have hcollect : (collect surveyDisk .standard ⟨.root, []⟩).result = .ok surveyed := by
    decide +kernel
  exact ⟨ordered_surveyDisk, hcollect, collect_exact ordered_surveyDisk hcollect⟩

end ProviderGen.Collection
