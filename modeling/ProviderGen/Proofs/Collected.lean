import ProviderGen.Collection
import ProviderGen.Proofs.Companion
import ProviderGen.Proofs.Lookup

namespace ProviderGen.Collection

theorem isSource_iff {name : String} :
    isSource name ↔ (Text.pieces '.' name).tail.getLast? = some "py" := by
  rw [isSource, List.isSuffixOf_iff_suffix]
  constructor
  · rintro ⟨text, htext⟩
    have hsuffix : sourceSuffix.toList = '.' :: ['p', 'y'] := by decide
    have hpieces : Text.pieces '.' name =
        (Text.split '.' text).map String.ofList ++ ["py"] := by
      rw [Text.pieces, ← htext, hsuffix, Text.split_append_cons, List.map_append]
      rfl
    rw [hpieces, List.tail_append_of_ne_nil (by simp [Text.split_ne_nil]), List.getLast?_concat]
  · intro hlast
    obtain ⟨front, hfront⟩ := List.getLast?_eq_some_iff.mp hlast
    cases hpieces : Text.pieces '.' name with
    | nil => exact absurd hpieces (Text.pieces_ne_nil _ _)
    | cons stem rest =>
        obtain rfl : rest = front ++ ["py"] := by simpa [hpieces] using hfront
        rw [← Text.intercalate_pieces '.' name, hpieces, ← List.cons_append,
          String.intercalate_append_of_ne_nil (by simp) (by simp), String.intercalate_singleton,
          String.append_assoc, String.toList_append]
        exact List.suffix_append _ _

theorem isSource_of_logicalName? {markers : List String} {name target : String}
    (h : logicalName? markers name = some target) : isSource target ↔ isSource name := by
  rw [isSource_iff, isSource_iff, pieces_of_logicalName? h, getLast?_tail_strippedSegments]

/-- A directory that the walk from another one reaches: below it, past no link and no directory that
is passed over. -/
inductive Reached : Listing → Listing → Prop
  | here (listing : Listing) : Reached listing listing
  | inside {listing found : Listing} {name : String} {entries : List (String × Node)}
      (hentry : (name, .directory entries) ∈ listing.entries)
      (hname : name ∉ excludedDirectories)
      (hfound : Reached ⟨listing.place ++ [name], listing.shown.child name, entries⟩ found) :
      Reached listing found

/-- A file of a directory, or a link to a file, with its content. -/
def Holds (setting : Setting) (listing : Listing) (name : String) (content : List UInt8) : Prop :=
  ∃ node, (name, node) ∈ listing.entries ∧
    contentOf setting listing (name, node) = .ok (some content)

/-- The name that a file is collected by: that of its logical file, or its own if it is an ordinary
file that may declare a model. -/
def nameOf? (discovery : Discovery) (file : String × List UInt8) : Option String :=
  if isSource file.1 then
    match logicalName? discovery.markers file.1 with
    | some target => some target
    | none => if isCandidate discovery file.1 file.2 then some file.1 else none
  else
    none

/-- Names in their order, without those that came before. -/
def freshNames : List String → List String → List String
  | _, [] => []
  | done, name :: names =>
      if name ∈ done then freshNames done names else name :: freshNames (name :: done) names

/-- A name that is collected from a directory. -/
def Wanted (setting : Setting) (listing : Listing) (name : String) : Prop :=
  ∃ file content, Holds setting listing file content ∧
    nameOf? setting.discovery (file, content) = some name

theorem mem_freshNames {done names : List String} {name : String} :
    name ∈ freshNames done names ↔ name ∉ done ∧ name ∈ names := by
  induction names generalizing done with
  | nil => simp [freshNames]
  | cons first rest ih =>
      unfold freshNames
      split
      next hmem =>
        rw [ih]
        grind
      next hfresh =>
        rw [List.mem_cons, ih]
        grind

theorem mem_zip_filterMap {ε α β : Type} {f : α → Except ε (Option β)} {items : List α}
    {results : List (Option β)} (h : items.mapM f = .ok results) {item : α} {value : β} :
    (item, some value) ∈ items.zip results ↔ item ∈ items ∧ f item = .ok (some value) := by
  induction items generalizing results with
  | nil =>
      obtain rfl : [] = results := by simpa [pure, Except.pure] using h
      simp
  | cons first rest ih =>
      simp only [List.mapM_cons, bind, Except.bind] at h
      split at h
      · simp at h
      next result hresult =>
        split at h
        · simp at h
        next others hothers =>
          obtain rfl : result :: others = results := by simpa [pure, Except.pure] using h
          simp only [List.zip_cons_cons, List.mem_cons, Prod.mk.injEq, ih hothers]
          constructor
          · rintro (⟨rfl, rfl⟩ | ⟨hmem, hvalue⟩)
            · exact ⟨.inl rfl, hresult⟩
            · exact ⟨.inr hmem, hvalue⟩
          · rintro ⟨rfl | hmem, hvalue⟩
            · exact .inl ⟨rfl, by simpa using hvalue.symm.trans hresult⟩
            · exact .inr ⟨hmem, hvalue⟩

theorem mem_filesOf {setting : Setting} {listing : Listing} {files : List (String × List UInt8)}
    (h : filesOf setting listing = .ok files) {name : String} {content : List UInt8} :
    (name, content) ∈ files ↔ Holds setting listing name content := by
  simp only [filesOf, bind, Except.bind] at h
  split at h
  · simp at h
  next contents hcontents =>
    obtain rfl : _ = files := by simpa [pure, Except.pure] using h
    simp only [List.mem_filterMap, Prod.exists, Option.map_eq_some_iff, Prod.mk.injEq, Holds]
    constructor
    · rintro ⟨_, node, _, hmem, _, rfl, rfl, rfl⟩
      exact ⟨node, (mem_zip_filterMap hcontents).mp hmem⟩
    · rintro ⟨node, hmem⟩
      exact ⟨name, node, some content, (mem_zip_filterMap hcontents).mpr hmem, content, rfl, rfl,
        rfl⟩

section Names

variable {discovery : Discovery} {name : String} {content : List UInt8}

theorem nameOf?_of_not_source (h : isSource name = false) :
    nameOf? discovery (name, content) = none := by
  simp [nameOf?, h]

theorem nameOf?_of_companion {target : String} (hsource : isSource name)
    (htarget : logicalName? discovery.markers name = some target) :
    nameOf? discovery (name, content) = some target := by
  simp [nameOf?, hsource, htarget]

theorem nameOf?_of_ordinary (hsource : isSource name)
    (hordinary : logicalName? discovery.markers name = none) :
    nameOf? discovery (name, content) =
      if isCandidate discovery name content then some name else none := by
  simp [nameOf?, hsource, hordinary]

theorem nameOf?_eq_providerFile_iff :
    nameOf? discovery (name, content) = some providerFile ↔
      logicalName? discovery.markers name = some providerFile := by
  have hsource : isSource providerFile := by decide
  constructor
  · intro h
    by_cases hname : isSource name
    · cases hlogical : logicalName? discovery.markers name with
      | some target => rwa [nameOf?_of_companion hname hlogical] at h
      | none =>
          rw [nameOf?_of_ordinary hname hlogical] at h
          split at h
          next hcandidate =>
            have hother : name ≠ providerFile := by simp_all [isCandidate]
            exact absurd (Option.some.inj h) hother
          next => cases h
    · rw [nameOf?_of_not_source (by simpa using hname)] at h
      cases h
  · intro h
    exact nameOf?_of_companion ((isSource_of_logicalName? h).mp hsource) h

/-- Collecting names from files does not fail. A file is passed over if its name was collected
before; all such names are of ordinary files, so it would only be collected by that name again. -/
theorem result_namesFrom {ε : Type} {done : List String}
    (hdone : ∀ name ∈ done, logicalName? discovery.markers name = none)
    (files : List (String × List UInt8)) :
    (namesFrom (ε := ε) discovery done files).result =
      .ok (freshNames done (files.filterMap (nameOf? discovery))) := by
  induction files generalizing done with
  | nil => rfl
  | cons file files ih =>
      obtain ⟨name, content⟩ := file
      have hmore : ∀ other, logicalName? discovery.markers other = none →
          ∀ another ∈ other :: done, logicalName? discovery.markers another = none := by
        rintro other hother another (_ | ⟨_, hanother⟩)
        · exact hother
        · exact hdone another hanother
      unfold namesFrom
      cases hsource : isSource name with
      | false => simp [ih hdone, nameOf?_of_not_source hsource]
      | true =>
          cases hlogical : logicalName? discovery.markers name with
          | some target =>
              have hfresh : name ∉ done := by
                intro hmem
                simp [hdone name hmem] at hlogical
              rw [List.filterMap_cons_some (nameOf?_of_companion hsource hlogical), freshNames]
              by_cases hmem : target ∈ done
              · simp [hfresh, hmem, ih hdone]
              · simp [hfresh, hmem, Logged.debug, Logged.andThen,
                  ih (hmore _ (logicalName?_of_logicalName? hlogical))]
          | none =>
              rw [List.filterMap_cons, nameOf?_of_ordinary hsource hlogical]
              by_cases hcandidate : isCandidate discovery name content
              · by_cases hmem : name ∈ done
                · simp [hmem, hcandidate, freshNames, ih hdone]
                · simp [hmem, hcandidate, freshNames, Logged.andThen, ih (hmore _ hlogical)]
              · simp [hcandidate, ih hdone]

end Names

variable {setting : Setting}

theorem mem_collectHere {listing : Listing} {paths : List Path}
    (h : (collectHere setting listing).result = .ok paths) {path : Path} :
    path ∈ paths ↔ ∃ name, Wanted setting listing name ∧ path = listing.shown.child name := by
  simp only [collectHere, Logged.bind_eq, Logged.result_andThen_eq_ok, Logged.ofExcept,
    Logged.pure_eq, Except.ok.injEq] at h
  obtain ⟨files, hfiles, names, hnames, rfl⟩ := h
  obtain rfl := Except.ok.inj ((result_namesFrom (by simp) files).symm.trans hnames)
  simp only [List.mem_map, mem_freshNames, List.mem_filterMap, Prod.exists, mem_filesOf hfiles]
  constructor
  · rintro ⟨name, ⟨-, file, content, hholds, hname⟩, rfl⟩
    exact ⟨name, ⟨file, content, hholds, hname⟩, rfl⟩
  · rintro ⟨name, ⟨file, content, hholds, hname⟩, rfl⟩
    exact ⟨name, ⟨List.not_mem_nil, file, content, hholds, hname⟩, rfl⟩

/-- A path of a file that is collected from a directory that the walk reaches. -/
def Collects (setting : Setting) (listing : Listing) (path : Path) : Prop :=
  ∃ found, Reached listing found ∧ ∃ name, Wanted setting found name ∧
    path = found.shown.child name

theorem collects_iff {listing : Listing} {path : Path} :
    Collects setting listing path ↔
      (∃ name, Wanted setting listing name ∧ path = listing.shown.child name) ∨
        ∃ name entries, (name, Node.directory entries) ∈ listing.entries ∧
          name ∉ excludedDirectories ∧
          Collects setting ⟨listing.place ++ [name], listing.shown.child name, entries⟩ path := by
  constructor
  · rintro ⟨found, hfound, hpath⟩
    cases hfound with
    | here => exact .inl hpath
    | inside hentry hname hfound => exact .inr ⟨_, _, hentry, hname, found, hfound, hpath⟩
  · rintro (hpath | ⟨name, entries, hentry, hname, found, hfound, hpath⟩)
    · exact ⟨listing, .here listing, hpath⟩
    · exact ⟨found, .inside hentry hname hfound, hpath⟩

/-- The files collected from one entry, if it is a directory that is not passed over. -/
def collectEntry (setting : Setting) (place : List String) (shown : Path) (name : String)
    (node : Node) : Logged CollectionError (List Path) :=
  if name ∈ excludedDirectories then pure []
  else collectNode setting (place ++ [name]) (shown.child name) node

theorem collectEntries_cons (place : List String) (shown : Path) (name : String) (node : Node)
    (rest : List (String × Node)) :
    collectEntries setting place shown ((name, node) :: rest) = do
      let here ← collectEntry setting place shown name node
      let others ← collectEntries setting place shown rest
      return here ++ others := by
  rw [collectEntries, collectEntry]
  by_cases h : name ∈ excludedDirectories <;> simp [h]

theorem collectNode_of_not_directory {node : Node} (h : node.isDirectory = false)
    (place : List String) (shown : Path) :
    collectNode setting place shown node = pure [] := by
  cases node with
  | directory entries => cases h
  | file content => simp [collectNode]
  | link target => simp [collectNode]

/-- The files collected from a node are those that any directory reached from it contributes. -/
def CollectsNode (setting : Setting) (place : List String) (shown : Path) (node : Node)
    (path : Path) : Prop :=
  ∃ entries, node = .directory entries ∧ Collects setting ⟨place, shown, entries⟩ path

mutual

theorem mem_collectNode {place : List String} {shown : Path} {files : List Path} {path : Path} :
    ∀ node : Node, (collectNode setting place shown node).result = .ok files →
      (path ∈ files ↔ CollectsNode setting place shown node path)
  | .directory entries, h => by
      simp only [collectNode, Logged.bind_eq, Logged.result_andThen_eq_ok, Logged.pure_eq,
        Except.ok.injEq] at h
      obtain ⟨here, hhere, below, hbelow, rfl⟩ := h
      simp only [CollectsNode, Node.directory.injEq, exists_eq_left']
      rw [List.mem_append, mem_collectHere hhere, mem_collectEntries entries hbelow, collects_iff]
      
  | .file content, h => by
      obtain rfl : [] = files := by simpa [collectNode] using h
      simp [CollectsNode]
  | .link target, h => by
      obtain rfl : [] = files := by simpa [collectNode] using h
      simp [CollectsNode]

theorem mem_collectEntries {place : List String} {shown : Path} {files : List Path} {path : Path} :
    ∀ entries : List (String × Node),
      (collectEntries setting place shown entries).result = .ok files →
        (path ∈ files ↔ ∃ name inner, (name, Node.directory inner) ∈ entries ∧
          name ∉ excludedDirectories ∧
          Collects setting ⟨place ++ [name], shown.child name, inner⟩ path)
  | [], h => by
      obtain rfl : [] = files := by simpa [collectEntries] using h
      simp
  | (name, node) :: rest, h => by
      simp only [collectEntries_cons, Logged.bind_eq, Logged.result_andThen_eq_ok, Logged.pure_eq,
        Except.ok.injEq] at h
      obtain ⟨here, hhere, others, hothers, rfl⟩ := h
      have hfirst : path ∈ here ↔ name ∉ excludedDirectories ∧
          CollectsNode setting (place ++ [name]) (shown.child name) node path := by
        by_cases hname : name ∈ excludedDirectories
        · obtain rfl : [] = here := by simpa [collectEntry, hname] using hhere
          simp [hname]
        · rw [mem_collectNode node (by simpa [collectEntry, hname] using hhere)]
          simp [hname]
      rw [List.mem_append, hfirst, mem_collectEntries rest hothers]
      simp only [CollectsNode, List.mem_cons, Prod.mk.injEq]
      constructor
      · rintro (⟨hname, inner, rfl, hpath⟩ | ⟨other, inner, hmem, hname, hpath⟩)
        · exact ⟨name, inner, .inl ⟨rfl, rfl⟩, hname, hpath⟩
        · exact ⟨other, inner, .inr hmem, hname, hpath⟩
      · rintro ⟨other, inner, ⟨rfl, rfl⟩ | hmem, hname, hpath⟩
        · exact .inl ⟨hname, inner, rfl, hpath⟩
        · exact .inr ⟨other, inner, hmem, hname, hpath⟩

end

theorem mem_collect {disk : Disk} {discovery : Discovery} {root : Path} {files : List Path}
    (h : (collect disk discovery root).result = .ok files) :
    ∃ place entries, disk.directoryAt? root = some (place, entries) ∧
      ∀ path, path ∈ files ↔ Collects ⟨disk, discovery⟩ ⟨place, root, entries⟩ path := by
  unfold collect at h
  split at h
  · cases h
  next place entries hdirectory =>
    simp only [Logged.bind_eq, Logged.result_andThen_eq_ok, Logged.pure_eq, Logged.debug,
      Except.ok.injEq] at h
    obtain ⟨_, hfiles, -, -, rfl⟩ := h
    refine ⟨place, entries, hdirectory, ?_⟩
    intro path
    rw [mem_collectNode _ hfiles]
    simp [CollectsNode]

/-- The file that the provider is written to is collected exactly if some companion of it is in a
directory that is reached. -/
theorem providerFile_collected_iff {disk : Disk} {discovery : Discovery} {root : Path}
    {files : List Path} (h : (collect disk discovery root).result = .ok files) :
    (∃ path ∈ files, path.name = providerFile) ↔
      ∃ place entries, disk.directoryAt? root = some (place, entries) ∧
        ∃ listing, Reached ⟨place, root, entries⟩ listing ∧
          ∃ file content, Holds ⟨disk, discovery⟩ listing file content ∧
            logicalName? discovery.markers file = some providerFile := by
  obtain ⟨place, entries, hdirectory, hmem⟩ := mem_collect h
  simp only [hmem, Collects, Wanted]
  constructor
  · rintro ⟨_, ⟨listing, hreached, name, ⟨file, content, hholds, hname⟩, rfl⟩, hprovider⟩
    obtain rfl : name = providerFile := by simpa using hprovider
    exact ⟨place, entries, hdirectory, listing, hreached, file, content, hholds,
      nameOf?_eq_providerFile_iff.mp hname⟩
  · rintro ⟨place', entries', hdirectory', listing, hreached, file, content, hholds, hlogical⟩
    obtain ⟨rfl, rfl⟩ : place' = place ∧ entries' = entries := by
      simpa using hdirectory'.symm.trans hdirectory
    refine ⟨listing.shown.child providerFile, ?_, Path.name_child _ _⟩
    exact ⟨listing, hreached, providerFile,
      ⟨file, content, hholds, nameOf?_eq_providerFile_iff.mpr hlogical⟩, rfl⟩

/-- A disk with a companion of the file that the provider is written to. -/
def companionDisk : Disk where
  root := .directory [("model_provider.g.py", .file [])]
  current := []
  home := "/"

theorem providerFile_collected_iff_companionDisk :
    (collect companionDisk .standard ⟨.root, []⟩).result = .ok [⟨.root, [providerFile]⟩] ∧
      ((∃ path ∈ [(⟨.root, [providerFile]⟩ : Path)], path.name = providerFile) ↔
        ∃ place entries, companionDisk.directoryAt? ⟨.root, []⟩ = some (place, entries) ∧
          ∃ listing, Reached ⟨place, ⟨.root, []⟩, entries⟩ listing ∧
            ∃ file content, Holds ⟨companionDisk, .standard⟩ listing file content ∧
              logicalName? Discovery.standard.markers file = some providerFile) :=
  ⟨rfl, providerFile_collected_iff rfl⟩

/-- Not everything that is collected is another file than the one that the provider is written to.
-/
theorem not_forall_collected_ne_providerFile :
    ¬ ∀ disk discovery root files, (collect disk discovery root).result = .ok files →
      ∀ path ∈ files, path.name ≠ providerFile := by
  intro h
  exact h companionDisk .standard ⟨.root, []⟩ [⟨.root, [providerFile]⟩] rfl _
    (List.mem_singleton_self _) rfl

end ProviderGen.Collection
