import ProviderGen.Interpreter.Common
import ProviderGen.Proofs.Gathering
import ProviderGen.Proofs.Loading
import ProviderGen.Proofs.Plan
import ProviderGen.Proofs.Repetition

namespace ProviderGen

open Node Collection

/-- No file of a tree is a companion of the file that the provider is written to. -/
def Node.NoCompanion (markers : List String) (root : Node) : Prop :=
  ∀ front name content, root.find? (front ++ [name]) = some (.file content) →
    logicalName? markers name ≠ some providerFile

theorem Node.NoCompanion.file {markers : List String} (content : List UInt8) :
    (Node.file content).NoCompanion markers := by
  intro front name other h
  cases front <;> simp [find?_cons] at h

theorem Node.NoCompanion.directory {markers : List String} {entries : List (String × Node)}
    (hfiles : ∀ name content, (name, .file content) ∈ entries →
      logicalName? markers name ≠ some providerFile)
    (hnodes : ∀ entry ∈ entries, entry.2.NoCompanion markers) :
    (Node.directory entries).NoCompanion markers := by
  intro front name content h
  rcases front with _ | ⟨first, front⟩
  · simp only [List.nil_append, find?_cons, Option.bind_eq_some_iff] at h
    obtain ⟨node, hentry, hfind⟩ := h
    obtain rfl : node = .file content := by simpa using hfind
    exact hfiles name content (mem_of_child?_eq_some hentry)
  · simp only [List.cons_append, find?_cons, Option.bind_eq_some_iff] at h
    obtain ⟨node, hentry, hfind⟩ := h
    exact hnodes _ (mem_of_child?_eq_some hentry) front name content hfind

namespace Collection

variable {setting : Setting} {discovery : Discovery}

theorem Reached.find? {root : Node} {listing found : Listing} (h : Reached listing found)
    (hordered : root.Ordered)
    (hlisting : root.find? listing.place = some (.directory listing.entries)) :
    root.find? found.place = some (.directory found.entries) := by
  induction h with
  | here listing => exact hlisting
  | @inside listing found name entries hentry _ _ ih =>
      apply ih
      cases hordered.of_find? hlisting with
      | directory hentries _ =>
          simp [find?_append, hlisting, find?_cons, child?_eq_some_of_mem hentries hentry]

theorem isSource_of_nameOf? {file : String × List UInt8} {name : String}
    (h : nameOf? discovery file = some name) : isSource name := by
  obtain ⟨other, content⟩ := file
  by_cases hsource : isSource other
  · cases hlogical : logicalName? discovery.markers other with
    | some target =>
        obtain rfl : target = name := by simpa [nameOf?_of_companion hsource hlogical] using h
        exact (isSource_of_logicalName? hlogical).mpr hsource
    | none =>
        rw [nameOf?_of_ordinary hsource hlogical] at h
        split at h
        · exact Option.some.inj h ▸ hsource
        · cases h
  · simp [nameOf?_of_not_source (by simpa using hsource)] at h

theorem name_of_mem_collect {disk : Disk} {root : Path} {files : List Path} {path : Path}
    (hordered : disk.root.Ordered) (hfree : disk.root.LinkFree)
    (hcompanion : disk.root.NoCompanion discovery.markers)
    (h : (collect disk discovery root).result = .ok files) (hpath : path ∈ files) :
    ∃ name, path.names.getLast? = some name ∧ isSource name ∧ name ≠ providerFile := by
  obtain ⟨place, entries, hdirectory, hmem⟩ := mem_collect h
  obtain ⟨found, hreached, name, ⟨file, content, ⟨node, hnode, hcontent⟩, hname⟩, rfl⟩ :=
    (hmem path).mp hpath
  have hplace := (Disk.find?_of_directoryAt? hdirectory).2
  have hfound := hreached.find? hordered hplace
  obtain rfl : node = .file content := by
    have hnodeFree : node.LinkFree := by
      cases hfree.of_find? hfound with
      | directory hnodes => exact hnodes _ hnode
    rw [contentOf_eq_ok hnodeFree] at hcontent
    cases hnodeFree with
    | file other => simpa [fileOf?] using hcontent
    | directory _ => simp [fileOf?] at hcontent
  refine ⟨name, by simp, isSource_of_nameOf? hname, ?_⟩
  rintro rfl
  refine hcompanion found.place file content ?_ (nameOf?_eq_providerFile_iff.mp hname)
  cases hordered.of_find? hfound with
  | directory hentries _ =>
      simp [find?_append, hfound, find?_cons, child?_eq_some_of_mem hentries hnode]

end Collection

namespace Disk

variable {disk other : Disk}

theorem resolveFrom_name {root : Node} (hroot : root.LinkFree) (bound : Nat)
    (active : List (List String)) (here : List String) (name : String) (rest : List Stop) :
    resolveFrom root (bound + 1) active here (.name name :: rest) =
      resolveFrom root bound active (if name = ".." then here.dropLast else here ++ [name]) rest := by
  rw [resolveFrom]
  split
  · rfl
  · dsimp only
    split
    · next target hlink => exact absurd hlink (hroot.find?_ne_link _ _)
    · rfl

theorem resolveFrom_congr {root later : Node} (hroot : root.LinkFree) (hlater : later.LinkFree)
    (bound : Nat) (active : List (List String)) (here : List String) (stops : List Stop) :
    resolveFrom later bound active here stops = resolveFrom root bound active here stops := by
  induction bound generalizing active here stops with
  | zero => rfl
  | succ bound ih =>
      cases stops with
      | nil => rfl
      | cons stop rest =>
          cases stop with
          | endOf link => simp only [resolveFrom, ih]
          | name name => rw [resolveFrom_name hroot, resolveFrom_name hlater, ih]

theorem loops_resolveFrom {root : Node} (hroot : root.LinkFree) {bound : Nat}
    (active : List (List String)) (here names : List String) (hbound : names.length < bound) :
    (resolveFrom root bound active here (names.map .name)).2 = false := by
  induction names generalizing bound here with
  | nil =>
      obtain ⟨bound, rfl⟩ := Nat.exists_eq_add_one_of_ne_zero (Nat.ne_zero_of_lt hbound)
      rfl
  | cons name names ih =>
      obtain ⟨bound, rfl⟩ := Nat.exists_eq_add_one_of_ne_zero (Nat.ne_zero_of_lt hbound)
      rw [List.map_cons, resolveFrom_name hroot]
      exact ih _ (by simpa using hbound)

theorem resolve_of_linkFree (hfree : disk.root.LinkFree) (path : Path) :
    disk.resolve path =
      if path.holdsNull then .error .nullCharacter
      else .ok ⟨.root, (resolveFrom disk.root (maxSteps + path.names.length) [] (disk.base path)
        (path.names.map Stop.name)).1⟩ := by
  have hbound : path.names.length < maxSteps + path.names.length :=
    Nat.lt_add_of_pos_left (by decide)
  have hloops := loops_resolveFrom hfree [] (disk.base path) path.names hbound
  unfold resolve
  split
  · rfl
  · simp only [hloops]
    rfl

/-- A later disk that looks the same to a search for models, but for files of the name that the
provider is written to. -/
structure Unnoticed (discovery : Discovery) (before after : Disk) : Prop where
  current_eq : after.current = before.current
  home_eq : after.home = before.home
  linkFree_before : before.root.LinkFree
  linkFree_after : after.root.LinkFree
  differsAtEnds : DiffersAtEnds before.root after.root
  looksSame : LooksSame discovery before.root after.root
  kept : ∀ names node, before.root.at? names = some node →
    names.getLast? ≠ some providerFile → after.root.at? names = some node

namespace Unnoticed

variable {discovery : Discovery} {before after : Disk}

theorem base_eq (h : Unnoticed discovery before after) (path : Path) :
    after.base path = before.base path := by
  simp [base, h.current_eq]

theorem resolve_eq (h : Unnoticed discovery before after) (path : Path) :
    after.resolve path = before.resolve path := by
  rw [resolve_of_linkFree h.linkFree_before, resolve_of_linkFree h.linkFree_after, h.base_eq,
    resolveFrom_congr h.linkFree_before h.linkFree_after]

theorem expandHome_eq [Interpreter] (h : Unnoticed discovery before after) (path : Path) :
    Project.expandHome after path = Project.expandHome before path := by
  simp [Project.expandHome, h.home_eq]

theorem readBytes_eq (h : Unnoticed discovery before after) {path : Path} {name : String}
    {content : List UInt8} (hname : path.names.getLast? = some name) (hup : name ≠ "..")
    (hother : name ≠ providerFile) (hread : before.readBytes path = .ok content) :
    after.readBytes path = .ok content := by
  obtain ⟨names, hlocate⟩ := readBytes_eq_ok_iff.mp hread
  obtain ⟨hnull, hwalk⟩ := search_eq_ok_iff.mp hlocate
  have hwalked := walked_of_walk hwalk
  have hfile : before.root.at? names = some (.file content) :=
    at?_eq_file_iff.mpr hwalked.node_eq.symm
  have hlast : names.getLast? = some name :=
    getLast?_of_locateItself hname hup (locateItself_of_locate h.linkFree_before hlocate)
  have hafter := h.kept names _ hfile (by simpa [hlast] using hother)
  have hwalked' := hwalked.congr h.differsAtEnds (hfile.trans hafter.symm)
  rw [at?_eq_file_iff.mp hafter] at hwalked'
  refine readBytes_eq_ok_iff.mpr ⟨names, search_eq_ok_iff.mpr ⟨hnull, ?_⟩⟩
  rw [h.base_eq]
  exact walk_of_walked hwalked'

theorem collect_eq (h : Unnoticed discovery before after) {source : Path} {files : List Path}
    (hfiles : (collect before discovery source).result = .ok files) :
    (collect after discovery source).result = .ok files := by
  obtain ⟨place, entries, hdirectory, -⟩ := mem_collect hfiles
  obtain ⟨hlocate, hplace⟩ := find?_of_directoryAt? hdirectory
  obtain ⟨hnull, hwalk⟩ := search_eq_ok_iff.mp hlocate
  obtain ⟨others, hothers, hwalked⟩ :=
    (walked_of_walk hwalk).congr_directory h.differsAtEnds
  obtain ⟨same, hsame, hgather⟩ := h.looksSame place entries hplace
  obtain rfl : same = others := by simpa using hsame.symm.trans hothers
  have hdirectory' : after.directoryAt? source = some (place, same) := by
    have hlocate' : after.locate source = .ok ⟨place, some (.directory same)⟩ := by
      refine search_eq_ok_iff.mpr ⟨hnull, ?_⟩
      rw [h.base_eq]
      exact walk_of_walked hwalked
    simp [directoryAt?, hlocate']
  rw [result_collect h.linkFree_after hdirectory', hgather, ← hfiles,
    result_collect h.linkFree_before hdirectory]

theorem importPath_eq (h : Unnoticed discovery before after) (root path : Path) :
    Workplace.importPath ⟨after, discovery, root⟩ path =
      Workplace.importPath ⟨before, discovery, root⟩ path := by
  simp only [Workplace.importPath, Workplace.resolve, h.resolve_eq]

theorem readText_eq (h : Unnoticed discovery before after) {root path : Path} {name text : String}
    (hname : path.names.getLast? = some name) (hup : name ≠ "..") (hother : name ≠ providerFile)
    (hread : Workplace.readText ⟨before, discovery, root⟩ path = .ok text) :
    Workplace.readText ⟨after, discovery, root⟩ path = .ok text := by
  unfold Workplace.readText at hread ⊢
  dsimp only at hread ⊢
  split at hread
  · cases hread
  · next bytes hbytes => rwa [h.readBytes_eq hname hup hother hbytes]

theorem analyzeFrom_eq [Interpreter] (h : Unnoticed discovery before after) {root : Path}
    {files : List Path} {known models : List (Model × Path)}
    (hnames : ∀ path ∈ files, ∃ name, path.names.getLast? = some name ∧ isSource name ∧
      name ≠ providerFile)
    (hmodels : (Workplace.analyzeFrom ⟨before, discovery, root⟩ known files).result = .ok models) :
    (Workplace.analyzeFrom ⟨after, discovery, root⟩ known files).result = .ok models := by
  induction files generalizing known with
  | nil => exact hmodels
  | cons path files ih =>
      obtain ⟨name, hname, hsource, hother⟩ := hnames path (List.mem_cons_self ..)
      have hup : name ≠ ".." := by
        rintro rfl
        exact absurd hsource (by decide)
      simp only [Workplace.analyzeFrom, Logged.bind_eq, Logged.result_andThen_eq_ok,
        Logged.ofExcept] at hmodels ⊢
      obtain ⟨text, htext, found, hfound, later, hlater, hrest⟩ := hmodels
      refine ⟨text, h.readText_eq hname hup hother htext, found, ?_, later, hlater, ?_⟩
      · simpa only [Workplace.analyzeText, h.importPath_eq] using hfound
      · exact ih (fun path hpath => hnames path (List.mem_cons_of_mem _ hpath)) hrest

theorem plan_eq [Interpreter] {project : Project} (h : Unnoticed project.discovery before after)
    {output : Option String} {made : Generation.Plan} (hordered : before.root.Ordered)
    (hcompanion : before.root.NoCompanion project.discovery.markers)
    (hplan : Generation.plan before project output = .ok made) :
    Generation.plan after project output = .ok made := by
  obtain ⟨files, hfiles, hmodels, htext, hclass, htarget⟩ :=
    Generation.plan_eq_ok_iff.mp hplan
  have hnames : ∀ path ∈ files, ∃ name, path.names.getLast? = some name ∧ isSource name ∧
      name ≠ providerFile :=
    fun path hpath => name_of_mem_collect hordered h.linkFree_before hcompanion hfiles hpath
  refine Generation.plan_eq_ok_iff.mpr ⟨files, h.collect_eq hfiles, ?_, htext, hclass, ?_⟩
  · simp only [Workplace.analyze, Logged.bind_eq, Logged.result_andThen_eq_ok, Logged.pure_eq,
      Except.ok.injEq] at hmodels ⊢
    obtain ⟨known, hknown, hmodels⟩ := hmodels
    exact ⟨known, h.analyzeFrom_eq hnames hknown, hmodels⟩
  · rw [← htarget]
    simp only [Generation.targetOf, h.expandHome_eq, h.current_eq]

end Unnoticed

theorem looksSame_prepared {discovery : Discovery} (hordered : disk.root.Ordered)
    (target : Path) : LooksSame discovery disk.root (disk.prepared target).root := by
  suffices hkept : (disk.prepared target).root.Ordered ∧
      LooksSame discovery disk.root (disk.prepared target).root from hkept.2
  refine ensureDirectories_preserves
    (P := fun made => made.root.Ordered ∧ LooksSame discovery disk.root made.root) ?_
    ⟨hordered, .refl _⟩ _ _
  rintro made path after ⟨hmade, hsame⟩ hmake
  obtain ⟨names, hnone, rfl⟩ := makeDirectory_eq_ok hmake
  rcases List.eq_nil_or_concat names with rfl | ⟨front, last, rfl⟩
  · simp at hnone
  · rw [List.concat_eq_append] at hnone ⊢
    have hempty : (Node.directory []).Ordered := .directory .nil (by simp)
    refine ⟨hmade.put hempty _, hsame.trans ?_⟩
    exact looksSame_put hmade (hidden_directory_nil last) (by simp [hnone])

/-- Writing a provider goes unnoticed. -/
theorem unnoticed_of_replaceFile (discovery : Discovery) {after : Disk} {directory : Path}
    {content : List UInt8} (habsolute : directory.isAbsolute) (hordered : disk.root.Ordered)
    (hfree : disk.root.LinkFree)
    (h : disk.replaceFile (directory.child providerFile) content = (after, .ok ())) :
    Unnoticed discovery disk after ∧
      after.replaceFile (directory.child providerFile) content = (after, .ok ()) := by
  have hlast : (directory.child providerFile).names.getLast? = some providerFile :=
    List.getLast?_concat
  have hup : providerFile ≠ ".." := by decide
  obtain ⟨place, hready, rfl⟩ := ready_of_replaceFile hordered hfree hlast hup h
  have hgrown := prepared_grown disk (directory.child providerFile)
  obtain ⟨front, hplace, hat⟩ := hready.exists_front habsolute hlast hup
  refine ⟨⟨hgrown.current_eq, hgrown.home_eq, hfree, ?_, ?_, ?_, ?_⟩, ?_⟩
  · exact hready.linkFree.put (.file content) place
  · exact hgrown.differsAtEnds.trans (hready.differsAtEnds habsolute hlast hup content)
  · refine (looksSame_prepared hordered (directory.child providerFile)).trans ?_
    rw [hplace]
    refine looksSame_put hready.ordered (hidden_providerFile rfl) ?_
    intro old hold
    have hleaf : old.isDirectory = false := by
      cases old with
      | directory entries => exact absurd (hplace ▸ hold) (hready.noDirectory entries)
      | file other => rfl
      | link other => rfl
    exact ⟨hleaf, hidden_providerFile hleaf⟩
  · intro names node hnode hname
    have hother : names ≠ place := by
      rintro rfl
      exact hname (by rw [hplace, List.getLast?_concat])
    exact ((hat content names).trans (if_neg hother)).trans (hgrown.kept names node hnode)
  · exact hready.replaceFile_withFile habsolute hlast hup

end Disk

namespace Generation

/-- Generating the provider of a loaded project a second time comes to the same and leaves the disk
as the first time left it, if there are no links and no companions of the provider. -/
theorem generate_again [Interpreter] {loadedOn : Disk} {path : Path} {project : Project}
    (loaded : Project.load loadedOn path = .ok project) {output : Option String}
    {session after : Session} {generated : Generated} (later : Session)
    (hlog : session.log = none) (hlaterLog : later.log = none)
    (hordered : session.disk.root.Ordered) (hfree : session.disk.root.LinkFree)
    (hcompanion : session.disk.root.NoCompanion project.discovery.markers)
    (h : generate project output session = (.ok generated, after))
    (hlater : later.disk = after.disk) :
    (generate project output later).1 = .ok generated ∧
      (generate project output later).2.disk = after.disk := by
  have hfirst := (yields_generate project output session hlog).1
  have hsecond := (yields_generate project output later hlaterLog).1
  rw [h] at hfirst
  simp only [planned] at hfirst hsecond
  cases hplan : plan session.disk project output with
  | error failure => simp [hplan] at hfirst
  | ok made =>
      simp only [hplan, Plan.carryOut, Prod.mk.injEq] at hfirst
      obtain ⟨hresult, hdisk⟩ := hfirst
      cases hreplace : session.disk.replaceFile made.generated.path (Text.encode made.text) with
      | mk disk replaced =>
          rw [hreplace] at hresult hdisk
          cases replaced with
          | error error => cases hresult
          | ok _ =>
              obtain rfl : generated = made.generated := Except.ok.inj hresult
              obtain ⟨files, hfiles, -, -, -, htarget⟩ := plan_eq_ok_iff.mp hplan
              obtain ⟨directory, hchild, hdirectory⟩ := targetOf_eq_child htarget
              obtain ⟨habsolute, -, houtput⟩ := Project.isAbsolute_of_load loaded
              rw [hchild] at hreplace
              obtain ⟨hunnoticed, hagain⟩ := Disk.unnoticed_of_replaceFile project.discovery
                (hdirectory habsolute houtput) hordered hfree hreplace
              have hplan' := hunnoticed.plan_eq hordered hcompanion hplan
              have hlater' : later.disk = disk := hlater.trans hdisk
              rw [hlater', hplan'] at hsecond
              simp only [Plan.carryOut, hchild, hagain] at hsecond
              rw [hdisk]
              exact Prod.mk.inj hsecond

open Interpreter.Common

/-- A disk with one project, which has a file without models. -/
def quietDisk : Disk where
  root := .directory [("app", .directory [("notes.py", .file [])])]
  current := ["app"]
  home := "/home"

def quietProject : Project where
  root := ⟨.root, ["app"]⟩
  name := "app"
  sourceDirectory := ⟨.root, ["app"]⟩
  outputDirectory := none
  discovery := .standard
  build := ⟨[], Project.standardTimeout⟩

theorem ordered_quietDisk : quietDisk.root.Ordered := by
  have happ : (Node.directory [("notes.py", .file [])]).Ordered :=
    .directory (by simp) (by simpa using .file [])
  exact .directory (by simp) (by simpa using happ)

theorem linkFree_quietDisk : quietDisk.root.LinkFree := by
  have happ : (Node.directory [("notes.py", .file [])]).LinkFree :=
    .directory (by simpa using .file [])
  exact .directory (by simpa using happ)

theorem noCompanion_quietDisk : quietDisk.root.NoCompanion quietProject.discovery.markers := by
  have hordinary : logicalName? quietProject.discovery.markers "notes.py" ≠ some providerFile := by
    decide
  have happ : (Node.directory [("notes.py", .file [])]).NoCompanion
      quietProject.discovery.markers :=
    .directory (by simpa using hordinary) (by simpa using .file [])
  exact .directory (by simp) (by simpa using happ)

theorem generate_again_quietDisk :
    Project.load quietDisk ⟨.root, ["app"]⟩ = .ok quietProject ∧
      ∃ generated after, generate quietProject (some "gen/out") (.start quietDisk) =
          (.ok generated, after) ∧
        (generate quietProject (some "gen/out") (.start after.disk)).1 = .ok generated ∧
        (generate quietProject (some "gen/out") (.start after.disk)).2.disk = after.disk := by
  have hload : Project.load quietDisk ⟨.root, ["app"]⟩ = .ok quietProject := rfl
  have hrun : generate quietProject (some "gen/out") (.start quietDisk) =
      (.ok ⟨⟨.root, ["app", "gen", "out", providerFile]⟩, [], "AppModelProvider"⟩,
        (generate quietProject (some "gen/out") (.start quietDisk)).2) := Prod.ext rfl rfl
  have hordered : (Session.start quietDisk).disk.root.Ordered := ordered_quietDisk
  have hfree : (Session.start quietDisk).disk.root.LinkFree := linkFree_quietDisk
  have hcompanion : (Session.start quietDisk).disk.root.NoCompanion
    quietProject.discovery.markers := noCompanion_quietDisk
  exact ⟨hload, _, _, hrun, generate_again hload (.start _) rfl rfl hordered hfree hcompanion hrun rfl⟩

end Generation

end ProviderGen
