import ProviderGen.Disk.Node
import Mathlib.Data.List.Basic

namespace ProviderGen.Node

/-- A node by itself: a directory stands without its entries. -/
def bare : Node → Node
  | directory _ => directory []
  | node => node

/-- What stands at the end of some names, by itself. -/
def at? (root : Node) (names : List String) : Option Node :=
  (root.find? names).map bare

theorem bare_eq_directory_iff {node : Node} :
    node.bare = directory [] ↔ ∃ entries, node = directory entries := by
  cases node <;> simp [bare]

theorem bare_eq_file_iff {node : Node} {content : List UInt8} :
    node.bare = file content ↔ node = file content := by
  cases node <;> simp [bare]

theorem bare_eq_link_iff {node : Node} {target : String} :
    node.bare = link target ↔ node = link target := by
  cases node <;> simp [bare]

@[simp]
theorem find?_nil (node : Node) : node.find? [] = some node := by
  cases node <;> rfl

theorem find?_cons (node : Node) (name : String) (names : List String) :
    node.find? (name :: names) =
      match node with
      | directory entries => (child? name entries).bind (·.find? names)
      | _ => none := by
  cases node with
  | directory entries =>
      simp only [find?]
      cases child? name entries <;> rfl
  | file content => rfl
  | link target => rfl

theorem find?_append (node : Node) (front rest : List String) :
    node.find? (front ++ rest) = (node.find? front).bind (·.find? rest) := by
  induction front generalizing node with
  | nil => simp
  | cons name front ih =>
      cases node with
      | directory entries =>
          simp only [List.cons_append, find?_cons]
          cases child? name entries with
          | none => rfl
          | some child => exact ih child
      | file content => simp [find?_cons]
      | link target => simp [find?_cons]

theorem find?_eq_directory_of_append {node : Node} {front rest : List String} {found : Node}
    (hrest : rest ≠ []) (h : node.find? (front ++ rest) = some found) :
    ∃ entries, node.find? front = some (directory entries) := by
  rw [find?_append, Option.bind_eq_some_iff] at h
  obtain ⟨middle, hmiddle, hfound⟩ := h
  cases rest with
  | nil => exact absurd rfl hrest
  | cons name rest =>
      cases middle with
      | directory entries => exact ⟨entries, hmiddle⟩
      | file content => simp [find?_cons] at hfound
      | link target => simp [find?_cons] at hfound

theorem top_eq_directory {node : Node} {names : List String} {found : Node}
    (hnames : names ≠ []) (h : node.find? names = some found) :
    ∃ entries, node.find? [] = some (directory entries) := by
  have hbelow : node.find? ([] ++ names) = some found := h
  exact find?_eq_directory_of_append hnames hbelow

theorem exists_top {node : Node} {names : List String} {entries : List (String × Node)}
    (h : node.find? names = some (directory entries)) :
    ∃ above, node.find? [] = some (directory above) := by
  by_cases hnames : names = []
  · exact ⟨entries, hnames ▸ h⟩
  · exact top_eq_directory hnames h

theorem find?_dropLast_eq_directory {node : Node} {names : List String}
    {entries : List (String × Node)} (h : node.find? names = some (directory entries)) :
    ∃ above, node.find? names.dropLast = some (directory above) := by
  rcases List.eq_nil_or_concat names with rfl | ⟨front, last, rfl⟩
  · exact ⟨entries, by simpa using h⟩
  · rw [List.concat_eq_append] at h ⊢
    rw [List.dropLast_concat]
    exact find?_eq_directory_of_append (by simp) h

section Entries

variable {name other : String} {node : Node} {entries : List (String × Node)}

theorem child?_putEntry :
    child? other (putEntry name node entries) =
      if other = name then some node else child? other entries := by
  induction entries with
  | nil => simp only [putEntry, child?, eq_comm]
  | cons first rest ih =>
      obtain ⟨key, old⟩ := first
      unfold putEntry
      split_ifs with hkey hless hother hother <;> simp_all [child?] <;> grind

theorem removeEntry_putEntry (h : child? name entries = none) :
    removeEntry name (putEntry name node entries) = entries := by
  induction entries with
  | nil => simp [putEntry, removeEntry]
  | cons first rest ih =>
      obtain ⟨key, old⟩ := first
      have hkey : key ≠ name := by
        rintro rfl
        simp [child?] at h
      have hrest : child? name rest = none := by simpa [child?, hkey] using h
      unfold putEntry
      split_ifs with hname hless
      · exact absurd hname.symm hkey
      · simp [removeEntry]
      · simp [removeEntry, hkey, ih hrest]

end Entries

section Put

variable {entries : List (String × Node)} {name : String} {names front : List String}

theorem put_cons (new : Node) (h : names ≠ []) :
    (directory entries).put (name :: names) new =
      match child? name entries with
      | some node => directory (putEntry name (node.put names new) entries)
      | none => directory entries := by
  cases names with
  | nil => exact absurd rfl h
  | cons second rest => rfl

theorem remove_cons (h : names ≠ []) :
    (directory entries).remove (name :: names) =
      match child? name entries with
      | some node => directory (putEntry name (node.remove names) entries)
      | none => directory entries := by
  cases names with
  | nil => exact absurd rfl h
  | cons second rest => rfl

theorem put_of_not_directory {node : Node} (new : Node) (hnode : node.isDirectory = false)
    (h : names ≠ []) : node.put names new = node := by
  cases node with
  | directory entries => simp [isDirectory] at hnode
  | file content => rcases names with _ | ⟨first, _ | ⟨second, rest⟩⟩ <;> simp_all [put]
  | link target => rcases names with _ | ⟨first, _ | ⟨second, rest⟩⟩ <;> simp_all [put]

theorem remove_of_not_directory {node : Node} (hnode : node.isDirectory = false) :
    node.remove names = node := by
  cases node with
  | directory entries => simp [isDirectory] at hnode
  | file content => rcases names with _ | ⟨first, _ | ⟨second, rest⟩⟩ <;> rfl
  | link target => rcases names with _ | ⟨first, _ | ⟨second, rest⟩⟩ <;> rfl

theorem exists_put_eq_directory (entries : List (String × Node)) (new : Node) (h : names ≠ []) :
    ∃ others, (directory entries).put names new = directory others := by
  cases names with
  | nil => exact absurd rfl h
  | cons name names =>
      cases names with
      | nil => exact ⟨_, rfl⟩
      | cons second rest =>
          rw [put_cons new (by simp)]
          cases child? name entries <;> exact ⟨_, rfl⟩

@[simp]
theorem at?_nil (node : Node) : node.at? [] = some node.bare := by
  simp [at?]

theorem at?_cons (node : Node) (name : String) (names : List String) :
    node.at? (name :: names) =
      match node with
      | directory entries => (child? name entries).bind (·.at? names)
      | _ => none := by
  cases node with
  | directory entries =>
      simp only [at?, find?_cons]
      cases child? name entries <;> rfl
  | file content => rfl
  | link target => rfl

theorem at?_eq_directory_iff {root : Node} :
    root.at? names = some (directory []) ↔
      ∃ entries, root.find? names = some (directory entries) := by
  simp only [at?, Option.map_eq_some_iff, bare_eq_directory_iff]
  constructor
  · rintro ⟨node, hfind, entries, rfl⟩
    exact ⟨entries, hfind⟩
  · rintro ⟨entries, hfind⟩
    exact ⟨_, hfind, entries, rfl⟩

theorem at?_eq_file_iff {root : Node} {content : List UInt8} :
    root.at? names = some (file content) ↔ root.find? names = some (file content) := by
  simp only [at?, Option.map_eq_some_iff, bare_eq_file_iff, exists_eq_right]

theorem at?_eq_link_iff {root : Node} {target : String} :
    root.at? names = some (link target) ↔ root.find? names = some (link target) := by
  simp only [at?, Option.map_eq_some_iff, bare_eq_link_iff, exists_eq_right]

theorem at?_eq_none_iff {root : Node} : root.at? names = none ↔ root.find? names = none := by
  simp [at?]

theorem at?_put_append {root new : Node} {above : List (String × Node)} (rest : List String)
    (h : root.find? front = some (directory above)) :
    (root.put (front ++ [name]) new).at? (front ++ name :: rest) = new.at? rest := by
  induction front generalizing root with
  | nil =>
      obtain rfl : root = directory above := by simpa using h
      simp [put, at?_cons, child?_putEntry]
  | cons first front ih =>
      cases root with
      | file content => simp [find?_cons] at h
      | link target => simp [find?_cons] at h
      | directory entries =>
          simp only [find?_cons, Option.bind_eq_some_iff] at h
          obtain ⟨child, hchild, hfind⟩ := h
          rw [List.cons_append, put_cons new (by simp), hchild]
          simp [at?_cons, child?_putEntry, ih hfind]

theorem at?_put_elsewhere (root new : Node) (h : ¬ front ++ [name] <+: names) :
    (root.put (front ++ [name]) new).at? names = root.at? names := by
  induction front generalizing root names with
  | nil =>
      cases root with
      | file content => rw [put_of_not_directory new rfl (by simp)]
      | link target => rw [put_of_not_directory new rfl (by simp)]
      | directory entries =>
          cases names with
          | nil => rfl
          | cons head tail =>
              have hne : head ≠ name := by
                rintro rfl
                exact h (by simp)
              simp [put, at?_cons, child?_putEntry, hne]
  | cons first front ih =>
      cases root with
      | file content => rw [put_of_not_directory new rfl (by simp)]
      | link target => rw [put_of_not_directory new rfl (by simp)]
      | directory entries =>
          rw [List.cons_append, put_cons new (by simp)]
          cases hchild : child? first entries with
          | none => rfl
          | some child =>
              cases names with
              | nil => rfl
              | cons head tail =>
                  by_cases hhead : head = first
                  · subst hhead
                    have htail : ¬ front ++ [name] <+: tail := by
                      intro hprefix
                      exact h (by simpa using hprefix)
                    simp [at?_cons, child?_putEntry, hchild, ih child htail]
                  · simp [at?_cons, child?_putEntry, hhead]

theorem at?_put_of_no_directory {root new : Node}
    (h : ∀ entries, root.find? front ≠ some (directory entries)) :
    (root.put (front ++ [name]) new).at? names = root.at? names := by
  induction front generalizing root names with
  | nil =>
      cases root with
      | file content => rw [put_of_not_directory new rfl (by simp)]
      | link target => rw [put_of_not_directory new rfl (by simp)]
      | directory entries => exact absurd (by simp) (h entries)
  | cons first front ih =>
      cases root with
      | file content => rw [put_of_not_directory new rfl (by simp)]
      | link target => rw [put_of_not_directory new rfl (by simp)]
      | directory entries =>
          rw [List.cons_append, put_cons new (by simp)]
          cases hchild : child? first entries with
          | none => rfl
          | some child =>
              have hbelow : ∀ above, child.find? front ≠ some (directory above) := by
                intro above habove
                exact h above (by simp [find?_cons, hchild, habove])
              cases names with
              | nil => rfl
              | cons head tail =>
                  by_cases hhead : head = first
                  · subst hhead
                    simp [at?_cons, child?_putEntry, hchild, ih hbelow]
                  · simp [at?_cons, child?_putEntry, hhead]

theorem at?_append_eq_none {root : Node} {rest : List String} (hrest : rest ≠ [])
    (h : ∀ above, root.find? front ≠ some (directory above)) :
    root.at? (front ++ rest) = none := by
  rw [at?_eq_none_iff]
  by_contra hfound
  obtain ⟨found, hfound⟩ := Option.ne_none_iff_exists'.mp hfound
  obtain ⟨above, habove⟩ := find?_eq_directory_of_append hrest hfound
  exact h above habove

theorem at?_put_leaf {root new : Node} {above : List (String × Node)}
    (hnew : ∀ first rest, new.at? (first :: rest) = none)
    (habove : root.find? front = some (directory above))
    (hold : ∀ entries, root.find? (front ++ [name]) ≠ some (directory entries)) :
    (root.put (front ++ [name]) new).at? names =
      if names = front ++ [name] then some new.bare else root.at? names := by
  by_cases hprefix : front ++ [name] <+: names
  · obtain ⟨rest, rfl⟩ := hprefix
    have hput : (root.put (front ++ [name]) new).at? (front ++ name :: rest) = new.at? rest :=
      at?_put_append rest habove
    rw [List.append_assoc, List.singleton_append] at *
    rw [hput]
    cases rest with
    | nil => simp
    | cons first rest =>
        have hroot : root.at? (front ++ name :: first :: rest) = none := by
          have hbelow : root.at? ((front ++ [name]) ++ first :: rest) = none :=
            at?_append_eq_none (by simp) hold
          simpa using hbelow
        simp [hnew, hroot]
  · have hne : names ≠ front ++ [name] := by
      rintro rfl
      exact hprefix (List.prefix_refl _)
    rw [at?_put_elsewhere root new hprefix, if_neg hne]

theorem at?_remove_put {root new : Node} (h : root.find? (front ++ [name]) = none) :
    ((root.put (front ++ [name]) new).remove (front ++ [name])).at? names = root.at? names := by
  induction front generalizing root names with
  | nil =>
      cases root with
      | file content =>
          rw [put_of_not_directory new rfl (by simp), remove_of_not_directory rfl]
      | link target =>
          rw [put_of_not_directory new rfl (by simp), remove_of_not_directory rfl]
      | directory entries =>
          have habsent : child? name entries = none := by
            simpa [find?_cons] using h
          simp [put, remove, removeEntry_putEntry habsent]
  | cons first front ih =>
      cases root with
      | file content =>
          rw [put_of_not_directory new rfl (by simp), remove_of_not_directory rfl]
      | link target =>
          rw [put_of_not_directory new rfl (by simp), remove_of_not_directory rfl]
      | directory entries =>
          rw [List.cons_append, put_cons new (by simp)]
          cases hchild : child? first entries with
          | none => simp [remove_cons, hchild]
          | some child =>
              have hbelow : child.find? (front ++ [name]) = none := by
                simpa [find?_cons, hchild] using h
              have hset : child? first
                  (putEntry first (child.put (front ++ [name]) new) entries) =
                    some (child.put (front ++ [name]) new) := by
                simp [child?_putEntry]
              simp only [remove_cons (by simp : front ++ [name] ≠ []), hset]
              cases names with
              | nil => rfl
              | cons head tail =>
                  by_cases hhead : head = first
                  · subst hhead
                    simp [at?_cons, child?_putEntry, hchild, ih hbelow]
                  · simp [at?_cons, child?_putEntry, hhead]

end Put

end ProviderGen.Node
