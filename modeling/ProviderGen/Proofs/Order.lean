import ProviderGen.Proofs.Tree
import Mathlib.Data.String.Basic

namespace ProviderGen.Node

/-- Every directory of a tree lists its entries in ascending order, each name once. -/
inductive Ordered : Node → Prop
  | file (content : List UInt8) : Ordered (.file content)
  | link (target : String) : Ordered (.link target)
  | directory {entries : List (String × Node)}
      (hentries : entries.Pairwise fun first second => first.1 < second.1)
      (hnodes : ∀ entry ∈ entries, Ordered entry.2) : Ordered (.directory entries)

/-- No link stands anywhere in a tree. -/
inductive LinkFree : Node → Prop
  | file (content : List UInt8) : LinkFree (.file content)
  | directory {entries : List (String × Node)}
      (hnodes : ∀ entry ∈ entries, LinkFree entry.2) : LinkFree (.directory entries)

section Entries

variable {name other : String} {node old : Node} {entries : List (String × Node)}

theorem mem_of_child?_eq_some (h : child? name entries = some node) : (name, node) ∈ entries := by
  induction entries with
  | nil => cases h
  | cons first rest ih =>
      obtain ⟨key, value⟩ := first
      by_cases hkey : key = name
      · obtain rfl : value = node := by simpa [child?, hkey] using h
        simp [hkey]
      · exact List.mem_cons_of_mem _ (ih (by simpa [child?, hkey] using h))

theorem child?_eq_some_of_mem (hentries : entries.Pairwise fun first second => first.1 < second.1)
    (h : (name, node) ∈ entries) : child? name entries = some node := by
  induction entries with
  | nil => cases h
  | cons first rest ih =>
      obtain ⟨key, value⟩ := first
      obtain ⟨hless, hrest⟩ := List.pairwise_cons.mp hentries
      rcases List.mem_cons.mp h with heq | hmem
      · obtain ⟨rfl, rfl⟩ := Prod.mk.inj heq
        simp [child?]
      · have hkey : key ≠ name := (hless _ hmem).ne
        simp [child?, hkey, ih hrest hmem]

theorem mem_putEntry {entry : String × Node} (h : entry ∈ putEntry name node entries) :
    entry = (name, node) ∨ entry ∈ entries := by
  induction entries with
  | nil => simpa [putEntry] using h
  | cons first rest ih =>
      obtain ⟨key, value⟩ := first
      unfold putEntry at h
      split_ifs at h with hkey hless
      · rcases List.mem_cons.mp h with rfl | hmem
        · exact .inl rfl
        · exact .inr (List.mem_cons_of_mem _ hmem)
      · exact (List.mem_cons.mp h).imp id id
      · rcases List.mem_cons.mp h with rfl | hmem
        · exact .inr (List.mem_cons_self ..)
        · exact (ih hmem).imp id (List.mem_cons_of_mem _)

theorem pairwise_putEntry (hentries : entries.Pairwise fun first second => first.1 < second.1) :
    (putEntry name node entries).Pairwise fun first second => first.1 < second.1 := by
  induction entries with
  | nil => simp [putEntry]
  | cons first rest ih =>
      obtain ⟨key, value⟩ := first
      obtain ⟨hrest, hordered⟩ := List.pairwise_cons.mp hentries
      unfold putEntry
      split_ifs with hkey hless
      · subst hkey
        exact List.pairwise_cons.mpr ⟨hrest, hordered⟩
      · refine List.pairwise_cons.mpr ⟨?_, hentries⟩
        intro entry hentry
        rcases List.mem_cons.mp hentry with rfl | hmem
        · exact hless
        · exact hless.trans (hrest entry hmem)
      · refine List.pairwise_cons.mpr ⟨?_, ih hordered⟩
        intro entry hentry
        rcases mem_putEntry hentry with rfl | hmem
        · exact lt_of_le_of_ne (not_lt.mp hless) (Ne.symm hkey)
        · exact hrest entry hmem

theorem exists_split_of_child?_eq_none (name : String) (h : child? name entries = none) :
    ∃ front back, entries = front ++ back ∧
      ∀ node, putEntry name node entries = front ++ (name, node) :: back := by
  induction entries with
  | nil => exact ⟨[], [], rfl, fun _ => rfl⟩
  | cons first rest ih =>
      obtain ⟨key, value⟩ := first
      have hkey : key ≠ name := by
        rintro rfl
        simp [child?] at h
      by_cases hless : name < key
      · refine ⟨[], (key, value) :: rest, rfl, ?_⟩
        intro node
        simp [putEntry, hkey.symm, hless]
      · obtain ⟨front, back, hrest, hput⟩ := ih (by simpa [child?, hkey] using h)
        refine ⟨(key, value) :: front, back, by simp [hrest], ?_⟩
        intro node
        simp [putEntry, hkey.symm, hless, hput]

theorem exists_split_of_child?_eq_some
    (hentries : entries.Pairwise fun first second => first.1 < second.1)
    (h : child? name entries = some old) :
    ∃ front back, entries = front ++ (name, old) :: back ∧
      ∀ node, putEntry name node entries = front ++ (name, node) :: back := by
  induction entries with
  | nil => cases h
  | cons first rest ih =>
      obtain ⟨key, value⟩ := first
      obtain ⟨hless, hrest⟩ := List.pairwise_cons.mp hentries
      by_cases hkey : key = name
      · obtain rfl : value = old := by simpa [child?, hkey] using h
        subst hkey
        exact ⟨[], rest, rfl, fun node => by simp [putEntry]⟩
      · have hold : child? name rest = some old := by simpa [child?, hkey] using h
        obtain ⟨front, back, heq, hput⟩ := ih hrest hold
        have hafter : ¬ name < key := (hless _ (mem_of_child?_eq_some hold)).not_gt
        refine ⟨(key, value) :: front, back, by simp [heq], ?_⟩
        intro node
        simp [putEntry, Ne.symm hkey, hafter, hput]

theorem putEntry_self (hentries : entries.Pairwise fun first second => first.1 < second.1)
    (h : child? name entries = some node) : putEntry name node entries = entries := by
  obtain ⟨front, back, heq, hput⟩ := exists_split_of_child?_eq_some hentries h
  rw [hput, heq]

@[simp]
theorem putEntry_putEntry :
    putEntry name node (putEntry name old entries) = putEntry name node entries := by
  induction entries with
  | nil => simp [putEntry]
  | cons first rest ih =>
      obtain ⟨key, value⟩ := first
      by_cases hkey : name = key
      · simp [putEntry, hkey]
      · by_cases hless : name < key
        · simp [putEntry, hkey, hless]
        · simp [putEntry, hkey, hless, ih]

end Entries

section Trees

variable {root new : Node} {names : List String}

theorem put_preserves {P : Node → Prop}
    (hentry : ∀ {entries name node}, P (.directory entries) → child? name entries = some node →
      P node)
    (hput : ∀ {entries name node}, P (.directory entries) → P node →
      P (.directory (putEntry name node entries)))
    (hroot : P root) (hnew : P new) (names : List String) : P (root.put names new) := by
  induction names generalizing root with
  | nil => cases root <;> exact hnew
  | cons name names ih =>
      cases root with
      | file content => rwa [put_of_not_directory new rfl (by simp)]
      | link target => rwa [put_of_not_directory new rfl (by simp)]
      | directory entries =>
          cases names with
          | nil => exact hput hroot hnew
          | cons second rest =>
              rw [put_cons new (by simp)]
              cases hchild : child? name entries with
              | none => exact hroot
              | some child => exact hput hroot (ih (hentry hroot hchild))

theorem Ordered.of_child? {entries : List (String × Node)} {name : String} {node : Node}
    (h : (Node.directory entries).Ordered) (hnode : child? name entries = some node) :
    node.Ordered := by
  cases h with
  | directory hentries hnodes => exact hnodes _ (mem_of_child?_eq_some hnode)

theorem Ordered.of_mem {entries : List (String × Node)} {entry : String × Node}
    (h : (Node.directory entries).Ordered) (hentry : entry ∈ entries) : entry.2.Ordered := by
  cases h with
  | directory _ hnodes => exact hnodes entry hentry

theorem Ordered.pairwise {entries : List (String × Node)} (h : (Node.directory entries).Ordered) :
    entries.Pairwise fun first second => first.1 < second.1 := by
  cases h with
  | directory hentries _ => exact hentries

theorem Ordered.put (hroot : root.Ordered) (hnew : new.Ordered) (names : List String) :
    (root.put names new).Ordered := by
  refine put_preserves Ordered.of_child? ?_ hroot hnew names
  rintro entries name node ⟨⟩ hnode
  next hentries hnodes =>
    refine .directory (pairwise_putEntry hentries) ?_
    intro entry hentry
    rcases mem_putEntry hentry with rfl | hmem
    · exact hnode
    · exact hnodes entry hmem

theorem LinkFree.of_child? {entries : List (String × Node)} {name : String} {node : Node}
    (h : (Node.directory entries).LinkFree) (hnode : child? name entries = some node) :
    node.LinkFree := by
  cases h with
  | directory hnodes => exact hnodes _ (mem_of_child?_eq_some hnode)

theorem LinkFree.put (hroot : root.LinkFree) (hnew : new.LinkFree) (names : List String) :
    (root.put names new).LinkFree := by
  refine put_preserves LinkFree.of_child? ?_ hroot hnew names
  rintro entries name node ⟨⟩ hnode
  next hnodes =>
    refine .directory ?_
    intro entry hentry
    rcases mem_putEntry hentry with rfl | hmem
    · exact hnode
    · exact hnodes entry hmem

theorem find?_preserves {P : Node → Prop}
    (hentry : ∀ {entries name node}, P (.directory entries) → child? name entries = some node →
      P node)
    (hroot : P root) {node : Node} (h : root.find? names = some node) : P node := by
  induction names generalizing root with
  | nil =>
      obtain rfl : root = node := by simpa using h
      exact hroot
  | cons name names ih =>
      cases root with
      | file content => simp [find?_cons] at h
      | link target => simp [find?_cons] at h
      | directory entries =>
          simp only [find?_cons, Option.bind_eq_some_iff] at h
          obtain ⟨child, hchild, hfind⟩ := h
          exact ih (hentry hroot hchild) hfind

theorem Ordered.of_find? {node : Node} (hroot : root.Ordered) (h : root.find? names = some node) :
    node.Ordered :=
  find?_preserves Ordered.of_child? hroot h

theorem LinkFree.of_find? {node : Node} (hroot : root.LinkFree)
    (h : root.find? names = some node) : node.LinkFree :=
  find?_preserves LinkFree.of_child? hroot h

theorem LinkFree.find?_ne_link (hroot : root.LinkFree) (names : List String) (target : String) :
    root.find? names ≠ some (.link target) := by
  intro h
  cases hroot.of_find? h

theorem put_put (root old new : Node) (names : List String) :
    (root.put names old).put names new = root.put names new := by
  induction names generalizing root with
  | nil => cases root <;> cases old <;> rfl
  | cons name names ih =>
      cases root with
      | file content =>
          rw [put_of_not_directory old rfl (by simp)]
      | link target =>
          rw [put_of_not_directory old rfl (by simp)]
      | directory entries =>
          cases names with
          | nil => simp [Node.put]
          | cons second rest =>
              rw [put_cons old (by simp), put_cons new (by simp)]
              cases hchild : child? name entries with
              | none => simp [put_cons, hchild]
              | some child => simp [put_cons, child?_putEntry, ih]

theorem remove_put (new : Node) (hroot : root.Ordered) (h : root.find? names = none) :
    (root.put names new).remove names = root := by
  induction names generalizing root with
  | nil => simp at h
  | cons name names ih =>
      cases hroot with
      | file content => rw [put_of_not_directory new rfl (by simp), remove_of_not_directory rfl]
      | link target => rw [put_of_not_directory new rfl (by simp), remove_of_not_directory rfl]
      | @directory entries hentries hnodes =>
          cases names with
          | nil =>
              have habsent : child? name entries = none := by simpa [find?_cons] using h
              simp [Node.put, remove, removeEntry_putEntry habsent]
          | cons second rest =>
              rw [put_cons new (by simp)]
              cases hchild : child? name entries with
              | none => simp [remove_cons, hchild]
              | some child =>
                  have hbelow : child.find? (second :: rest) = none := by
                    simpa [find?_cons, hchild] using h
                  have hordered := hnodes _ (mem_of_child?_eq_some hchild)
                  simp [remove_cons, child?_putEntry, ih hordered hbelow,
                    putEntry_self hentries hchild]

end Trees

end ProviderGen.Node
