import ProviderGen.Proofs.Gathering
import Mathlib.Data.List.Forall2

/-!
Trees without links that look alike to a search for source files: they have the same directories,
but for those that are passed over, and in these the same source files, with contents that count as
the same. What is collected from them, and what is remarked on the way, is the same.
-/

namespace ProviderGen.Collection

open Node

/-- The names of a way into no directory that is passed over. -/
def Visible (names : List String) : Prop := ∀ name ∈ names, name ∉ excludedDirectories

/-- Two trees look alike: below neither of them is a visible directory, or a source file in one,
that is not below the other, and the contents of a source file count as the same. -/
structure Alike (same : String → List UInt8 → List UInt8 → Prop) (root other : Node) : Prop where
  directory_iff : ∀ names, Visible names →
    (root.at? names = some (.directory []) ↔ other.at? names = some (.directory []))
  source_iff : ∀ names name, Visible names → isSource name →
    ((∃ content, root.at? (names ++ [name]) = some (.file content)) ↔
      ∃ content, other.at? (names ++ [name]) = some (.file content))
  content_same : ∀ names name content content', Visible names → isSource name →
    root.at? (names ++ [name]) = some (.file content) →
    other.at? (names ++ [name]) = some (.file content') → same name content content'

/-- The source files among entries. -/
def sourcesIn (entries : List (String × Node)) : List (String × List UInt8) :=
  (entries.filterMap fileOf?).filter fun file => isSource file.1

/-- An entry as a directory that is not passed over, if it is one. -/
def visible? : String × Node → Option (String × List (String × Node))
  | (name, .directory inner) => if name ∈ excludedDirectories then none else some (name, inner)
  | _ => none

/-- The directories among entries that are not passed over. -/
def visibleIn (entries : List (String × Node)) : List (String × List (String × Node)) :=
  entries.filterMap visible?

section Entries

variable {entries : List (String × Node)} {name : String}

theorem fileOf?_eq_some_iff {entry : String × Node} {content : List UInt8} :
    fileOf? entry = some (name, content) ↔ entry = (name, .file content) := by
  obtain ⟨key, node⟩ := entry
  cases node <;> simp [fileOf?]

theorem mem_sourcesIn {content : List UInt8} :
    (name, content) ∈ sourcesIn entries ↔ (name, .file content) ∈ entries ∧ isSource name := by
  simp only [sourcesIn, List.mem_filter, List.mem_filterMap, fileOf?_eq_some_iff, exists_eq_right]

theorem visible?_eq_some_iff {entry : String × Node} {inner : List (String × Node)} :
    visible? entry = some (name, inner) ↔
      entry = (name, .directory inner) ∧ name ∉ excludedDirectories := by
  obtain ⟨key, node⟩ := entry
  cases node with
  | directory found =>
      simp only [visible?, Option.ite_none_left_eq_some, Option.some.injEq, Prod.mk.injEq,
        Node.directory.injEq]
      constructor
      · rintro ⟨hname, rfl, rfl⟩
        exact ⟨⟨rfl, rfl⟩, hname⟩
      · rintro ⟨⟨rfl, rfl⟩, hname⟩
        exact ⟨hname, rfl, rfl⟩
  | file content => simp [visible?]
  | link target => simp [visible?]

theorem mem_visibleIn {inner : List (String × Node)} :
    (name, inner) ∈ visibleIn entries ↔
      (name, .directory inner) ∈ entries ∧ name ∉ excludedDirectories := by
  simp only [visibleIn, List.mem_filterMap, visible?_eq_some_iff]
  constructor
  · rintro ⟨_, hmem, rfl, hname⟩
    exact ⟨hmem, hname⟩
  · rintro ⟨hmem, hname⟩
    exact ⟨_, hmem, rfl, hname⟩

theorem pairwise_sourcesIn (h : entries.Pairwise fun first second => first.1 < second.1) :
    (sourcesIn entries).Pairwise fun first second => first.1 < second.1 := by
  refine (List.Pairwise.filterMap fileOf? ?_ h).filter _
  rintro entry entry' hless ⟨_, _⟩ hfile ⟨_, _⟩ hfile'
  obtain rfl := fileOf?_eq_some_iff.mp hfile
  obtain rfl := fileOf?_eq_some_iff.mp hfile'
  exact hless

theorem pairwise_visibleIn (h : entries.Pairwise fun first second => first.1 < second.1) :
    (visibleIn entries).Pairwise fun first second => first.1 < second.1 := by
  refine List.Pairwise.filterMap visible? ?_ h
  rintro entry entry' hless ⟨_, _⟩ hdirectory ⟨_, _⟩ hdirectory'
  obtain ⟨rfl, -⟩ := visible?_eq_some_iff.mp hdirectory
  obtain ⟨rfl, -⟩ := visible?_eq_some_iff.mp hdirectory'
  exact hless

end Entries

theorem forall₂_of_keys {α β : Type} (rel : String → α → β → Prop) {items : List (String × α)}
    {others : List (String × β)} (hitems : items.Pairwise fun first second => first.1 < second.1)
    (hothers : others.Pairwise fun first second => first.1 < second.1)
    (hkeys : ∀ key, (∃ value, (key, value) ∈ items) ↔ ∃ value, (key, value) ∈ others)
    (hrel : ∀ key value value', (key, value) ∈ items → (key, value') ∈ others →
      rel key value value') :
    List.Forall₂ (fun item other => item.1 = other.1 ∧ rel item.1 item.2 other.2) items others := by
  induction items generalizing others with
  | nil =>
      cases others with
      | nil => exact .nil
      | cons other others =>
          obtain ⟨_, hmem⟩ := (hkeys other.1).mpr ⟨other.2, List.mem_cons_self ..⟩
          cases hmem
  | cons item items ih =>
      cases others with
      | nil =>
          obtain ⟨_, hmem⟩ := (hkeys item.1).mp ⟨item.2, List.mem_cons_self ..⟩
          cases hmem
      | cons other others =>
          obtain ⟨key, value⟩ := item
          obtain ⟨key', value'⟩ := other
          obtain ⟨hless, hrest⟩ := List.pairwise_cons.mp hitems
          obtain ⟨hless', hrest'⟩ := List.pairwise_cons.mp hothers
          -- Each list has the key that the other one begins with, so neither begins with a later one.
          obtain rfl : key = key' := by
            obtain ⟨_, hmem⟩ := (hkeys key).mp ⟨value, List.mem_cons_self ..⟩
            obtain ⟨_, hmem'⟩ := (hkeys key').mpr ⟨value', List.mem_cons_self ..⟩
            rcases List.mem_cons.mp hmem with heq | hmem
            · exact (Prod.mk.inj heq).1
            rcases List.mem_cons.mp hmem' with heq | hmem'
            · exact (Prod.mk.inj heq).1.symm
            exact absurd ((hless' _ hmem).trans (hless _ hmem')) (lt_irrefl _)
          have hmore : ∀ other, (∃ value, (other, value) ∈ items) ↔
              ∃ value, (other, value) ∈ others := by
            intro other
            by_cases hother : other = key
            · subst hother
              constructor
              · rintro ⟨_, hmem⟩
                exact absurd (hless _ hmem) (lt_irrefl _)
              · rintro ⟨_, hmem⟩
                exact absurd (hless' _ hmem) (lt_irrefl _)
            · simpa [hother] using hkeys other
          refine .cons ⟨rfl, hrel _ _ _ (List.mem_cons_self ..) (List.mem_cons_self ..)⟩
            (ih hrest hrest' hmore ?_)
          intro other _ _ hmem hmem'
          exact hrel _ _ _ (List.mem_cons_of_mem _ hmem) (List.mem_cons_of_mem _ hmem')

theorem keys_of_forall₂ {α β : Type} (rel : String → α → β → Prop) {items : List (String × α)}
    {others : List (String × β)} (hitems : items.Pairwise fun first second => first.1 < second.1)
    (hothers : others.Pairwise fun first second => first.1 < second.1)
    (h : List.Forall₂ (fun item other => item.1 = other.1 ∧ rel item.1 item.2 other.2)
      items others) (key : String) :
    ((∃ value, (key, value) ∈ items) ↔ ∃ value, (key, value) ∈ others) ∧
      ∀ value value', (key, value) ∈ items → (key, value') ∈ others → rel key value value' := by
  induction h with
  | nil => simp
  | @cons item other items others hhead _ ih =>
      obtain ⟨first, value⟩ := item
      obtain ⟨first', value'⟩ := other
      obtain ⟨rfl, hrel⟩ := hhead
      obtain ⟨hless, hrest⟩ := List.pairwise_cons.mp hitems
      obtain ⟨hless', hrest'⟩ := List.pairwise_cons.mp hothers
      by_cases hkey : key = first
      · subst hkey
        refine ⟨⟨fun _ => ⟨_, List.mem_cons_self ..⟩, fun _ => ⟨_, List.mem_cons_self ..⟩⟩, ?_⟩
        intro found found' hmem hmem'
        obtain rfl : found = value := by
          rcases List.mem_cons.mp hmem with heq | hmem
          · exact (Prod.mk.inj heq).2
          · exact absurd (hless _ hmem) (lt_irrefl _)
        obtain rfl : found' = value' := by
          rcases List.mem_cons.mp hmem' with heq | hmem'
          · exact (Prod.mk.inj heq).2
          · exact absurd (hless' _ hmem') (lt_irrefl _)
        exact hrel
      · simpa [hkey] using ih hrest hrest'

section Alike

variable {same : String → List UInt8 → List UInt8 → Prop} {root other node node' : Node}
  {entries others : List (String × Node)} {name : String}

theorem Alike.isDirectory_eq (h : Alike same root other) : root.isDirectory = other.isDirectory := by
  have hroot := h.directory_iff [] (by simp [Visible])
  cases root <;> cases other <;> simp_all [bare, isDirectory]

theorem Alike.child (h : Alike same (.directory entries) (.directory others))
    (hname : name ∉ excludedDirectories) (hnode : child? name entries = some node)
    (hnode' : child? name others = some node') : Alike same node node' := by
  have hat : ∀ names, (directory entries).at? (name :: names) = node.at? names := by
    intro names
    simp [at?_cons, hnode]
  have hat' : ∀ names, (directory others).at? (name :: names) = node'.at? names := by
    intro names
    simp [at?_cons, hnode']
  have hbelow : ∀ names, Visible names → Visible (name :: names) :=
    fun _ hvisible => List.forall_mem_cons.mpr ⟨hname, hvisible⟩
  constructor
  · intro names hvisible
    rw [← hat, ← hat']
    exact h.directory_iff _ (hbelow names hvisible)
  · intro names last hvisible hsource
    simp only [← hat, ← hat']
    exact h.source_iff (name :: names) last (hbelow names hvisible) hsource
  · intro names last content content' hvisible hsource
    rw [← hat, ← hat']
    exact h.content_same (name :: names) last content content' (hbelow names hvisible) hsource

theorem at?_singleton_eq_file_iff (h : (Node.directory entries).Ordered) {content : List UInt8} :
    (directory entries).at? [name] = some (.file content) ↔ (name, .file content) ∈ entries := by
  rw [at?_eq_file_iff, find?_cons]
  constructor
  · intro hfind
    obtain ⟨node, hchild, hnode⟩ := Option.bind_eq_some_iff.mp hfind
    obtain rfl : node = .file content := by simpa using hnode
    exact mem_of_child?_eq_some hchild
  · intro hmem
    simp [child?_eq_some_of_mem h.pairwise hmem]

theorem at?_singleton_eq_directory_iff (h : (Node.directory entries).Ordered) :
    (directory entries).at? [name] = some (.directory []) ↔
      ∃ inner, (name, .directory inner) ∈ entries := by
  rw [at?_eq_directory_iff, find?_cons]
  constructor
  · rintro ⟨inner, hfind⟩
    obtain ⟨node, hchild, hnode⟩ := Option.bind_eq_some_iff.mp hfind
    obtain rfl : node = .directory inner := by simpa using hnode
    exact ⟨inner, mem_of_child?_eq_some hchild⟩
  · rintro ⟨inner, hmem⟩
    exact ⟨inner, by simp [child?_eq_some_of_mem h.pairwise hmem]⟩

theorem at?_cons_eq_some_iff (h : (Node.directory entries).Ordered) {first : String}
    {rest : List String} :
    (directory entries).at? (first :: rest) = some node ↔
      ∃ entry, (first, entry) ∈ entries ∧ entry.at? rest = some node := by
  rw [at?_cons]
  simp only [Option.bind_eq_some_iff]
  constructor
  · rintro ⟨entry, hentry, hnode⟩
    exact ⟨entry, mem_of_child?_eq_some hentry, hnode⟩
  · rintro ⟨entry, hmem, hnode⟩
    exact ⟨entry, child?_eq_some_of_mem h.pairwise hmem, hnode⟩

theorem exists_of_at?_eq_directory {names : List String}
    (h : node.at? names = some (.directory [])) : ∃ inner, node = .directory inner := by
  cases node with
  | directory inner => exact ⟨inner, rfl⟩
  | file content => cases names <;> simp [at?_cons, bare] at h
  | link target => cases names <;> simp [at?_cons, bare] at h

theorem exists_of_at?_concat {names : List String}
    (h : node.at? (names ++ [name]) = some other) : ∃ inner, node = .directory inner := by
  cases node with
  | directory inner => exact ⟨inner, rfl⟩
  | file content => cases names <;> simp [at?_cons] at h
  | link target => cases names <;> simp [at?_cons] at h

/-- What holds only of directories, and of trees that look alike if of one of them, holds of entries
of one name or of neither if the visible directories pair up. -/
theorem exists_entry_iff_of_pairs (hordered : (Node.directory entries).Ordered)
    (hordered' : (Node.directory others).Ordered)
    (hdirectories : List.Forall₂ (fun inside inside' => inside.1 = inside'.1 ∧
      Alike same (.directory inside.2) (.directory inside'.2)) (visibleIn entries)
        (visibleIn others)) (hname : name ∉ excludedDirectories) {holds : Node → Prop}
    (honly : ∀ node, holds node → ∃ inner, node = .directory inner)
    (hsame : ∀ node node', Alike same node node' → (holds node ↔ holds node')) :
    (∃ entry, (name, entry) ∈ entries ∧ holds entry) ↔
      ∃ entry, (name, entry) ∈ others ∧ holds entry := by
  obtain ⟨hkeys, halike⟩ := keys_of_forall₂ (fun _ inner inner' =>
    Alike same (.directory inner) (.directory inner')) (pairwise_visibleIn hordered.pairwise)
      (pairwise_visibleIn hordered'.pairwise) hdirectories name
  simp only [mem_visibleIn, hname, not_false_eq_true, and_true] at hkeys halike
  constructor
  · rintro ⟨entry, hentry, hholds⟩
    obtain ⟨inner, rfl⟩ := honly entry hholds
    obtain ⟨inner', hentry'⟩ := hkeys.mp ⟨inner, hentry⟩
    exact ⟨_, hentry', (hsame _ _ (halike _ _ hentry hentry')).mp hholds⟩
  · rintro ⟨entry', hentry', hholds⟩
    obtain ⟨inner', rfl⟩ := honly entry' hholds
    obtain ⟨inner, hentry⟩ := hkeys.mpr ⟨inner', hentry'⟩
    exact ⟨_, hentry, (hsame _ _ (halike _ _ hentry hentry')).mpr hholds⟩

theorem Alike.of_pairs (hordered : (Node.directory entries).Ordered)
    (hordered' : (Node.directory others).Ordered)
    (hsources : List.Forall₂ (fun file file' => file.1 = file'.1 ∧ same file.1 file.2 file'.2)
      (sourcesIn entries) (sourcesIn others))
    (hdirectories : List.Forall₂ (fun inside inside' => inside.1 = inside'.1 ∧
      Alike same (.directory inside.2) (.directory inside'.2)) (visibleIn entries)
        (visibleIn others)) : Alike same (.directory entries) (.directory others) := by
  have hfile := keys_of_forall₂ same (pairwise_sourcesIn hordered.pairwise)
    (pairwise_sourcesIn hordered'.pairwise) hsources
  simp only [mem_sourcesIn] at hfile
  constructor
  · intro names hvisible
    cases names with
    | nil => simp [bare]
    | cons first rest =>
        obtain ⟨hfirst, hrest⟩ := List.forall_mem_cons.mp hvisible
        rw [at?_cons_eq_some_iff hordered, at?_cons_eq_some_iff hordered']
        exact exists_entry_iff_of_pairs hordered hordered' hdirectories hfirst
          (fun _ => exists_of_at?_eq_directory) fun _ _ halike => halike.directory_iff rest hrest
  · intro names last hvisible hsource
    cases names with
    | nil =>
        simp only [List.nil_append, at?_singleton_eq_file_iff hordered,
          at?_singleton_eq_file_iff hordered']
        simpa [hsource] using (hfile last).1
    | cons first rest =>
        obtain ⟨hfirst, hrest⟩ := List.forall_mem_cons.mp hvisible
        simp only [List.cons_append, at?_cons_eq_some_iff hordered,
          at?_cons_eq_some_iff hordered', exists_comm (α := List UInt8), exists_and_left]
        refine exists_entry_iff_of_pairs hordered hordered' hdirectories hfirst ?_
          fun _ _ halike => halike.source_iff rest last hrest hsource
        rintro _ ⟨_, hat⟩
        exact exists_of_at?_concat hat
  · intro names last content content' hvisible hsource hat hat'
    cases names with
    | nil =>
        rw [List.nil_append, at?_singleton_eq_file_iff hordered] at hat
        rw [List.nil_append, at?_singleton_eq_file_iff hordered'] at hat'
        exact (hfile last).2 _ _ ⟨hat, hsource⟩ ⟨hat', hsource⟩
    | cons first rest =>
        obtain ⟨hfirst, hrest⟩ := List.forall_mem_cons.mp hvisible
        obtain ⟨-, halike⟩ := keys_of_forall₂ (fun _ inner inner' =>
          Alike same (.directory inner) (.directory inner')) (pairwise_visibleIn hordered.pairwise)
            (pairwise_visibleIn hordered'.pairwise) hdirectories first
        rw [List.cons_append, at?_cons_eq_some_iff hordered] at hat
        rw [List.cons_append, at?_cons_eq_some_iff hordered'] at hat'
        obtain ⟨entry, hentry, hat⟩ := hat
        obtain ⟨entry', hentry', hat'⟩ := hat'
        obtain ⟨inner, rfl⟩ := exists_of_at?_concat hat
        obtain ⟨inner', rfl⟩ := exists_of_at?_concat hat'
        exact (halike _ _ (mem_visibleIn.mpr ⟨hentry, hfirst⟩)
          (mem_visibleIn.mpr ⟨hentry', hfirst⟩)).content_same rest last content content' hrest
            hsource hat hat'
variable (hordered : (Node.directory entries).Ordered) (hordered' : (Node.directory others).Ordered)
  (h : Alike same (.directory entries) (.directory others))

include hordered hordered' h

theorem Alike.sources : List.Forall₂ (fun file file' =>
    file.1 = file'.1 ∧ isSource file.1 ∧ same file.1 file.2 file'.2)
      (sourcesIn entries) (sourcesIn others) := by
  have hentries := hordered.pairwise
  have hothers := hordered'.pairwise
  refine forall₂_of_keys (fun name content content' =>
    isSource name ∧ same name content content') (pairwise_sourcesIn hentries)
      (pairwise_sourcesIn hothers) ?_ ?_
  · intro name
    simp only [mem_sourcesIn, exists_and_right]
    refine and_congr_left fun hsource => ?_
    have hfiles := h.source_iff [] name (by simp [Visible]) hsource
    simpa only [List.nil_append, at?_singleton_eq_file_iff hordered,
      at?_singleton_eq_file_iff hordered'] using hfiles
  · intro name content content' hfile hfile'
    obtain ⟨hmem, hsource⟩ := mem_sourcesIn.mp hfile
    obtain ⟨hmem', -⟩ := mem_sourcesIn.mp hfile'
    exact ⟨hsource, h.content_same [] name content content' (by simp [Visible]) hsource
      ((at?_singleton_eq_file_iff hordered).mpr hmem)
      ((at?_singleton_eq_file_iff hordered').mpr hmem')⟩

theorem Alike.directories : List.Forall₂ (fun inside inside' =>
    inside.1 = inside'.1 ∧ (inside.1, .directory inside.2) ∈ entries ∧
      (inside.1, .directory inside'.2) ∈ others ∧ inside.1 ∉ excludedDirectories ∧
      Alike same (.directory inside.2) (.directory inside'.2))
      (visibleIn entries) (visibleIn others) := by
  have hentries := hordered.pairwise
  have hothers := hordered'.pairwise
  refine forall₂_of_keys (fun name inner inner' =>
    (name, .directory inner) ∈ entries ∧ (name, .directory inner') ∈ others ∧
      name ∉ excludedDirectories ∧ Alike same (.directory inner) (.directory inner'))
      (pairwise_visibleIn hentries) (pairwise_visibleIn hothers) ?_ ?_
  · intro name
    simp only [mem_visibleIn, exists_and_right]
    refine and_congr_left fun hname => ?_
    have hdirectories := h.directory_iff [name] (by simpa [Visible] using hname)
    simpa only [at?_singleton_eq_directory_iff hordered,
      at?_singleton_eq_directory_iff hordered'] using hdirectories
  · intro name inner inner' hinner hinner'
    obtain ⟨hmem, hname⟩ := mem_visibleIn.mp hinner
    obtain ⟨hmem', -⟩ := mem_visibleIn.mp hinner'
    exact ⟨hmem, hmem', hname, h.child hname (child?_eq_some_of_mem hentries hmem)
      (child?_eq_some_of_mem hothers hmem')⟩

end Alike

section Collecting

variable {same : String → List UInt8 → List UInt8 → Prop} {discovery : Discovery}
  {disk other : Disk}

theorem namesFrom_filter {ε : Type} (done : List String) (files : List (String × List UInt8)) :
    namesFrom (ε := ε) discovery done (files.filter fun file => isSource file.1) =
      namesFrom discovery done files := by
  induction files generalizing done with
  | nil => rfl
  | cons file files ih =>
      obtain ⟨name, content⟩ := file
      cases hsource : isSource name with
      | false => simp [hsource, namesFrom, ih]
      | true =>
          simp only [List.filter_cons, hsource, if_true, namesFrom, ih]

theorem namesFrom_congr {ε : Type} {files others : List (String × List UInt8)}
    (h : List.Forall₂ (fun file file' => file.1 = file'.1 ∧
      (logicalName? discovery.markers file.1 = none →
        isCandidate discovery file.1 file.2 = isCandidate discovery file.1 file'.2)) files others)
    (done : List String) :
    namesFrom (ε := ε) discovery done files = namesFrom discovery done others := by
  induction h generalizing done with
  | nil => rfl
  | @cons file file' files others hfile _ ih =>
      obtain ⟨name, content⟩ := file
      obtain ⟨name', content'⟩ := file'
      obtain ⟨rfl, hcandidate⟩ := hfile
      unfold namesFrom
      cases hlogical : logicalName? discovery.markers name with
      | some target => simp only [ih]
      | none => simp only [ih, hcandidate hlogical]

theorem collectHere_eq {setting : Setting} {listing : Listing}
    (h : ∀ entry ∈ listing.entries, entry.2.LinkFree) :
    collectHere setting listing = do
      let names ← namesFrom setting.discovery [] (sourcesIn listing.entries)
      return names.map listing.shown.child := by
  rw [collectHere, filesOf_eq_ok h, sourcesIn, namesFrom_filter]
  rfl

theorem collectEntry_of_visible?_eq_none {setting : Setting} {name : String} {node : Node}
    (h : visible? (name, node) = none) (place : List String) (shown : Path) :
    collectEntry setting place shown name node = pure [] := by
  unfold collectEntry
  split
  · rfl
  next hname =>
    cases node with
    | directory inner => simp [visible?, hname] at h
    | file content => exact collectNode_of_not_directory rfl _ _
    | link target => exact collectNode_of_not_directory rfl _ _

theorem collectEntries_visibleIn (setting : Setting) (place : List String) (shown : Path)
    (entries : List (String × Node)) :
    collectEntries setting place shown entries =
      collectEntries setting place shown
        ((visibleIn entries).map fun inside => (inside.1, .directory inside.2)) := by
  induction entries with
  | nil => rfl
  | cons entry rest ih =>
      obtain ⟨name, node⟩ := entry
      rw [collectEntries_cons, ih]
      cases hvisible : visible? (name, node) with
      | none =>
          have hrest : visibleIn ((name, node) :: rest) = visibleIn rest := by
            simp [visibleIn, hvisible]
          rw [hrest, collectEntry_of_visible?_eq_none hvisible]
          simp only [Logged.pure_eq, Logged.bind_eq, Logged.andThen_ok, List.nil_append,
            Logged.andThen_pure]
      | some inside =>
          have hrest : visibleIn ((name, node) :: rest) = inside :: visibleIn rest := by
            simp [visibleIn, hvisible]
          obtain ⟨heq, -⟩ := visible?_eq_some_iff.mp hvisible
          obtain ⟨rfl, rfl⟩ := Prod.mk.inj heq
          rw [hrest, List.map_cons, collectEntries_cons]

theorem collectEntries_congr {setting setting' : Setting} {place place' : List String}
    {shown : Path} {insides insides' : List (String × List (String × Node))}
    (h : List.Forall₂ (fun inside inside' => inside.1 = inside'.1 ∧
      collectNode setting (place ++ [inside.1]) (shown.child inside.1) (.directory inside.2) =
        collectNode setting' (place' ++ [inside.1]) (shown.child inside.1) (.directory inside'.2))
      insides insides') :
    collectEntries setting place shown
        (insides.map fun inside => (inside.1, .directory inside.2)) =
      collectEntries setting' place' shown
        (insides'.map fun inside => (inside.1, .directory inside.2)) := by
  induction h with
  | nil => rfl
  | @cons inside inside' insides insides' hinside _ ih =>
      obtain ⟨name, inner⟩ := inside
      obtain ⟨name', inner'⟩ := inside'
      obtain ⟨rfl, hnode⟩ := hinside
      simp only [List.map_cons, collectEntries_cons, collectEntry, ih]
      dsimp only at hnode
      rw [hnode]

/-- From trees that look alike the same is collected, and the same is remarked, if it makes no
difference to the candidates that contents only count as the same. -/
theorem collectNode_congr (hcandidate : ∀ name content content', isSource name →
      same name content content' → logicalName? discovery.markers name = none →
      isCandidate discovery name content = isCandidate discovery name content')
    {node node' : Node} (hfree : node.LinkFree) (hfree' : node'.LinkFree) (hordered : node.Ordered)
    (hordered' : node'.Ordered) (halike : Alike same node node') (place place' : List String)
    (shown : Path) :
    collectNode ⟨disk, discovery⟩ place shown node =
      collectNode ⟨other, discovery⟩ place' shown node' := by
  -- The places differ from disk to disk, as the disks do; they matter only where there are links.
  induction hfree generalizing node' place place' shown with
  | file content =>
      rw [collectNode_of_not_directory rfl, collectNode_of_not_directory]
      exact halike.isDirectory_eq.symm
  | @directory entries hnodes ih =>
      cases hfree' with
      | file content => cases halike.isDirectory_eq
      | @directory others hnodes' =>
          have hhere : collectHere ⟨disk, discovery⟩ ⟨place, shown, entries⟩ =
              collectHere ⟨other, discovery⟩ ⟨place', shown, others⟩ := by
            rw [collectHere_eq hnodes, collectHere_eq hnodes']
            dsimp only
            rw [namesFrom_congr]
            refine (halike.sources hordered hordered').imp ?_
            rintro file file' ⟨hname, hsource, hcontent⟩
            exact ⟨hname, hcandidate _ _ _ hsource hcontent⟩
          have hbelow : collectEntries ⟨disk, discovery⟩ place shown entries =
              collectEntries ⟨other, discovery⟩ place' shown others := by
            rw [collectEntries_visibleIn, collectEntries_visibleIn _ _ _ others]
            refine collectEntries_congr ?_
            refine (halike.directories hordered hordered').imp ?_
            rintro inside inside' ⟨hname, hmem, hmem', -, hinside⟩
            exact ⟨hname, ih _ hmem (hnodes' _ hmem') (hordered.of_mem hmem)
              (hordered'.of_mem hmem') hinside _ _ _⟩
          rw [collectNode, collectNode, hhere, hbelow]

theorem collect_congr (hcandidate : ∀ name content content', isSource name →
      same name content content' → logicalName? discovery.markers name = none →
      isCandidate discovery name content = isCandidate discovery name content')
    (hfree : disk.root.LinkFree) (hfree' : other.root.LinkFree) (hordered : disk.root.Ordered)
    (hordered' : other.root.Ordered) {source : Path}
    (halike : Option.Rel
      (fun found found' => Alike same (.directory found.2) (.directory found'.2))
      (disk.directoryAt? source) (other.directoryAt? source)) :
    collect disk discovery source = collect other discovery source := by
  unfold collect
  generalize hfound : disk.directoryAt? source = found at halike
  generalize hfound' : other.directoryAt? source = found' at halike
  cases halike with
  | none => rfl
  | @some found found' halike =>
      obtain ⟨place, entries⟩ := found
      obtain ⟨place', entries'⟩ := found'
      have hplace := (Disk.find?_of_directoryAt? hfound).2
      have hplace' := (Disk.find?_of_directoryAt? hfound').2
      dsimp only
      rw [collectNode_congr hcandidate (hfree.of_find? hplace) (hfree'.of_find? hplace')
        (hordered.of_find? hplace) (hordered'.of_find? hplace') halike place place' source]

end Collecting

end ProviderGen.Collection
