import ProviderGen.Proofs.Collected
import ProviderGen.Proofs.Order

namespace ProviderGen.Collection

open Node

/-- An entry as a file with its content, if it is one. -/
def fileOf? : String × Node → Option (String × List UInt8)
  | (name, .file content) => some (name, content)
  | _ => none

def entryName? (discovery : Discovery) (entry : String × Node) : Option String :=
  (fileOf? entry).bind (nameOf? discovery)

mutual

/-- The files collected from a tree without links. -/
def gather (discovery : Discovery) (shown : Path) : Node → List Path
  | .directory entries =>
      (freshNames [] (entries.filterMap (entryName? discovery))).map shown.child ++
        gatherEntries discovery shown entries
  | _ => []

/-- The files collected from the directories among the entries of a tree without links. -/
def gatherEntries (discovery : Discovery) (shown : Path) : List (String × Node) → List Path
  | [] => []
  | (name, node) :: rest =>
      (if name ∈ excludedDirectories then [] else gather discovery (shown.child name) node) ++
        gatherEntries discovery shown rest

end

variable {setting : Setting} {discovery : Discovery}

theorem contentOf_eq_ok {listing : Listing} {entry : String × Node} (h : entry.2.LinkFree) :
    contentOf setting listing entry = .ok ((fileOf? entry).map Prod.snd) := by
  obtain ⟨name, node⟩ := entry
  cases h <;> rfl

theorem mapM_contentOf_eq_ok {listing : Listing} {entries : List (String × Node)}
    (h : ∀ entry ∈ entries, entry.2.LinkFree) :
    entries.mapM (contentOf setting listing) =
      .ok (entries.map fun entry => (fileOf? entry).map Prod.snd) := by
  induction entries with
  | nil => rfl
  | cons entry rest ih =>
      obtain ⟨hentry, hrest⟩ := List.forall_mem_cons.mp h
      rw [List.mapM_cons, contentOf_eq_ok hentry, ih hrest]
      rfl

theorem filesOf_eq_ok {listing : Listing} (h : ∀ entry ∈ listing.entries, entry.2.LinkFree) :
    filesOf setting listing = .ok (listing.entries.filterMap fileOf?) := by
  rw [filesOf, mapM_contentOf_eq_ok h]
  refine congrArg Except.ok ?_
  induction listing.entries with
  | nil => rfl
  | cons entry rest ih =>
      obtain ⟨name, node⟩ := entry
      cases node <;> simpa [fileOf?, List.filterMap_cons] using ih

mutual

theorem result_collectNode (place : List String) (shown : Path) :
    ∀ node : Node, node.LinkFree →
      (collectNode setting place shown node).result = .ok (gather setting.discovery shown node)
  | .directory entries, h => by
      have hnodes : ∀ entry ∈ entries, entry.2.LinkFree := by
        cases h with
        | directory hnodes => exact hnodes
      have hhere : (collectHere setting ⟨place, shown, entries⟩).result =
          .ok ((freshNames [] (entries.filterMap (entryName? setting.discovery))).map
            shown.child) := by
        have hfiles : filesOf setting ⟨place, shown, entries⟩ = .ok (entries.filterMap fileOf?) :=
          filesOf_eq_ok hnodes
        have hnames : (namesFrom (ε := CollectionError) setting.discovery []
            (entries.filterMap fileOf?)).result =
              .ok (freshNames [] (entries.filterMap (entryName? setting.discovery))) := by
          rw [result_namesFrom (by simp), List.filterMap_filterMap]
          rfl
        simp [collectHere, hfiles, Logged.ofExcept, Logged.andThen, hnames]
      have hbelow := result_collectEntries place shown entries hnodes
      simp [collectNode, Logged.andThen, hhere, hbelow, gather]
  | .file content, _ => by simp [collectNode, gather]
  | .link target, h => by cases h

theorem result_collectEntries (place : List String) (shown : Path) :
    ∀ entries : List (String × Node), (∀ entry ∈ entries, entry.2.LinkFree) →
      (collectEntries setting place shown entries).result =
        .ok (gatherEntries setting.discovery shown entries)
  | [], _ => by simp [collectEntries, gatherEntries]
  | (name, node) :: rest, h => by
      obtain ⟨hnode, hrest⟩ := List.forall_mem_cons.mp h
      have hhere : (collectEntry setting place shown name node).result =
          .ok (if name ∈ excludedDirectories then []
            else gather setting.discovery (shown.child name) node) := by
        unfold collectEntry
        split
        · rfl
        · exact result_collectNode _ _ node hnode
      have hothers := result_collectEntries place shown rest hrest
      simp [collectEntries_cons, Logged.andThen, hhere, hothers, gatherEntries]

end

theorem result_collect {disk : Disk} {root : Path} {place : List String}
    {entries : List (String × Node)} (hfree : disk.root.LinkFree)
    (h : disk.directoryAt? root = some (place, entries)) :
    (collect disk discovery root).result = .ok (gather discovery root (.directory entries)) := by
  have hdirectory := hfree.of_find? (Disk.find?_of_directoryAt? h).2
  have hnode : (Collection.collectNode ⟨disk, discovery⟩ place root (.directory entries)).result =
      .ok (gather discovery root (.directory entries)) := result_collectNode place root _ hdirectory
  simp [collect, h, Logged.andThen, Logged.debug, hnode]

theorem gatherEntries_append (shown : Path) (front back : List (String × Node)) :
    gatherEntries discovery shown (front ++ back) =
      gatherEntries discovery shown front ++ gatherEntries discovery shown back := by
  induction front with
  | nil => simp [gatherEntries]
  | cons entry front ih => simp [gatherEntries, ih, List.append_assoc]

/-- An entry that nothing is collected from. -/
def Hidden (discovery : Discovery) (entry : String × Node) : Prop :=
  entryName? discovery entry = none ∧ ∀ shown, gather discovery shown entry.2 = []

theorem hidden_directory_nil (name : String) : Hidden discovery (name, .directory []) :=
  ⟨rfl, fun _ => rfl⟩

theorem hidden_providerFile {node : Node} (h : node.isDirectory = false) :
    Hidden discovery (providerFile, node) := by
  have hname : ∀ content, nameOf? discovery (providerFile, content) = none := by
    intro content
    have hpieces : Text.pieces '.' providerFile = ["model_provider", "py"] := by decide
    have hordinary : logicalName? discovery.markers providerFile = none := by
      simp [logicalName?, hpieces, strippedSegments]
    rw [nameOf?_of_ordinary (by decide) hordinary]
    simp [isCandidate]
  cases node with
  | file content => exact ⟨hname content, fun _ => rfl⟩
  | directory entries => cases h
  | link target => exact ⟨rfl, fun _ => rfl⟩

/-- Two entries of one name from which the same is collected. -/
structure LooksLike (discovery : Discovery) (name : String) (old new : Node) : Prop where
  name_eq : entryName? discovery (name, new) = entryName? discovery (name, old)
  gather_eq : ∀ shown, gather discovery shown new = gather discovery shown old

theorem gather_putEntry_of_hidden {entries : List (String × Node)} {name : String} {new : Node}
    (shown : Path) (hnone : child? name entries = none) (hnew : Hidden discovery (name, new)) :
    gather discovery shown (.directory (putEntry name new entries)) =
      gather discovery shown (.directory entries) := by
  obtain ⟨front, back, rfl, hput⟩ := exists_split_of_child?_eq_none name hnone
  simp [gather, hput, gatherEntries_append, gatherEntries, hnew.1, hnew.2]

theorem gather_putEntry {entries : List (String × Node)} {name : String} {old new : Node}
    (shown : Path) (hentries : entries.Pairwise fun first second => first.1 < second.1)
    (hold : child? name entries = some old) (hnew : LooksLike discovery name old new) :
    gather discovery shown (.directory (putEntry name new entries)) =
      gather discovery shown (.directory entries) := by
  obtain ⟨front, back, rfl, hput⟩ := exists_split_of_child?_eq_some hentries hold
  simp [gather, hput, gatherEntries_append, gatherEntries, List.filterMap_cons, hnew.name_eq,
    hnew.gather_eq]

/-- Every directory of one tree is one of another tree, and the same is collected from it. -/
def LooksSame (discovery : Discovery) (root other : Node) : Prop :=
  ∀ names entries, root.find? names = some (.directory entries) →
    ∃ others, other.find? names = some (.directory others) ∧
      ∀ shown, gather discovery shown (.directory others) =
        gather discovery shown (.directory entries)

theorem LooksSame.refl (root : Node) : LooksSame discovery root root :=
  fun _ entries h => ⟨entries, h, fun _ => rfl⟩

theorem LooksSame.trans {root middle other : Node} (first : LooksSame discovery root middle)
    (second : LooksSame discovery middle other) : LooksSame discovery root other := by
  intro names entries h
  obtain ⟨between, hbetween, hfirst⟩ := first names entries h
  obtain ⟨others, hothers, hsecond⟩ := second names between hbetween
  exact ⟨others, hothers, fun shown => (hsecond shown).trans (hfirst shown)⟩

section Put

variable {root new : Node} {front : List String} {name : String}

theorem entryName?_put (other : String) :
    entryName? discovery (other, root.put (front ++ [name]) new) =
      entryName? discovery (other, root) := by
  cases root with
  | file content => rw [put_of_not_directory new rfl (by simp)]
  | link target => rw [put_of_not_directory new rfl (by simp)]
  | directory entries =>
      obtain ⟨others, hput⟩ := exists_put_eq_directory entries new (by simp : front ++ [name] ≠ [])
      rw [hput]
      rfl

/-- What nothing is collected from can be set in a place of that kind without a change of what is
collected. -/
theorem gather_put (hroot : root.Ordered) (hnew : Hidden discovery (name, new))
    (hold : ∀ old, root.find? (front ++ [name]) = some old → Hidden discovery (name, old))
    (shown : Path) :
    gather discovery shown (root.put (front ++ [name]) new) = gather discovery shown root := by
  induction front generalizing root shown with
  | nil =>
      cases hroot with
      | file content => rw [put_of_not_directory new rfl (by simp)]
      | link target => rw [put_of_not_directory new rfl (by simp)]
      | @directory entries hentries hnodes =>
          change gather discovery shown (.directory (putEntry name new entries)) = _
          cases hentry : child? name entries with
          | none => exact gather_putEntry_of_hidden shown hentry hnew
          | some old =>
              obtain ⟨hname, hgather⟩ := hold old (by simp [find?_cons, hentry])
              refine gather_putEntry shown hentries hentry ⟨?_, ?_⟩
              · rw [hname, hnew.1]
              · intro inner
                rw [hgather, hnew.2]
  | cons first front ih =>
      cases hroot with
      | file content => rw [put_of_not_directory new rfl (by simp)]
      | link target => rw [put_of_not_directory new rfl (by simp)]
      | @directory entries hentries hnodes =>
          rw [List.cons_append, put_cons new (by simp)]
          cases hchild : child? first entries with
          | none => rfl
          | some child =>
              refine gather_putEntry shown hentries hchild ⟨entryName?_put first, ?_⟩
              intro inner
              refine ih (hnodes _ (mem_of_child?_eq_some hchild)) ?_ inner
              intro old hfind
              exact hold old (by simp [find?_cons, hchild, hfind])

theorem looksSame_put (hroot : root.Ordered) (hnew : Hidden discovery (name, new))
    (hold : ∀ old, root.find? (front ++ [name]) = some old →
      old.isDirectory = false ∧ Hidden discovery (name, old)) :
    LooksSame discovery root (root.put (front ++ [name]) new) := by
  intro names entries hfind
  induction front generalizing root names with
  | nil =>
      cases names with
      | nil =>
          obtain rfl : root = .directory entries := by simpa using hfind
          refine ⟨putEntry name new entries, rfl, ?_⟩
          intro shown
          change gather discovery shown ((Node.directory entries).put ([] ++ [name]) new) = _
          exact gather_put hroot hnew (fun old h => (hold old h).2) shown
      | cons head tail =>
          cases root with
          | file content => simp [find?_cons] at hfind
          | link target => simp [find?_cons] at hfind
          | directory above =>
              have hhead : head ≠ name := by
                rintro rfl
                simp only [find?_cons, Option.bind_eq_some_iff] at hfind
                obtain ⟨old, hentry, hbelow⟩ := hfind
                have hleaf := (hold old (by simp [find?_cons, hentry])).1
                cases old with
                | directory inner => cases hleaf
                | file content => cases tail <;> simp [find?_cons] at hbelow
                | link target => cases tail <;> simp [find?_cons] at hbelow
              exact ⟨entries, by simpa [put, find?_cons, child?_putEntry, hhead] using hfind,
                fun _ => rfl⟩
  | cons first front ih =>
      cases names with
      | nil =>
          obtain rfl : root = .directory entries := by simpa using hfind
          obtain ⟨others, hput⟩ := exists_put_eq_directory entries new
            (by simp : first :: front ++ [name] ≠ [])
          refine ⟨others, by rw [hput, find?_nil], ?_⟩
          intro shown
          rw [← hput]
          exact gather_put hroot hnew (fun old h => (hold old h).2) shown
      | cons head tail =>
          cases root with
          | file content => simp [find?_cons] at hfind
          | link target => simp [find?_cons] at hfind
          | directory above =>
              simp only [find?_cons, Option.bind_eq_some_iff] at hfind
              obtain ⟨child, hchild, hbelow⟩ := hfind
              rw [List.cons_append, put_cons new (by simp)]
              by_cases hhead : head = first
              · subst hhead
                have hinner : ∀ old, child.find? (front ++ [name]) = some old →
                    old.isDirectory = false ∧ Hidden discovery (name, old) := by
                  intro old hfind
                  exact hold old (by simp [find?_cons, hchild, hfind])
                obtain ⟨others, hothers, hgather⟩ :=
                  ih (hroot.of_child? hchild) hinner tail hbelow
                exact ⟨others, by simp [find?_cons, hchild, child?_putEntry, hothers], hgather⟩
              · refine ⟨entries, ?_, fun _ => rfl⟩
                cases hfirst : child? first above with
                | none => simp [find?_cons, hchild, hbelow]
                | some other => simp [find?_cons, child?_putEntry, hhead, hchild, hbelow]

end Put

end ProviderGen.Collection
