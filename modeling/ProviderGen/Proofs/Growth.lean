import ProviderGen.Disk.Access
import ProviderGen.Proofs.Lookup

namespace ProviderGen.Disk

open Node

/-- A path leads to a place where something stands. -/
def LeadsTo (disk : Disk) (path : Path) (names : List String) : Prop :=
  ∃ bound node, Walked disk.root true bound maxLinks (disk.base path) path.names ⟨names, some node⟩

/-- A disk has grown by empty directories, and only by those that some first part of a path leads
to. All that was there is kept. -/
structure Grown (way : Path) (before after : Disk) : Prop where
  current_eq : after.current = before.current
  home_eq : after.home = before.home
  kept : ∀ names node, before.root.at? names = some node → after.root.at? names = some node
  made : ∀ names, before.root.at? names = none → after.root.at? names ≠ none →
    after.root.at? names = some (directory []) ∧
      ∃ front, front <+: way.names ∧ after.LeadsTo ⟨way.anchor, front⟩ names

namespace Grown

variable {way : Path} {before middle after : Disk}

theorem refl (way : Path) (disk : Disk) : Grown way disk disk where
  current_eq := rfl
  home_eq := rfl
  kept := fun _ _ h => h
  made := fun _ hnone hsome => absurd hnone hsome

theorem differsAtEnds (h : Grown way before after) : DiffersAtEnds before.root after.root := by
  intro names hne
  cases hbefore : before.root.at? names with
  | none => simp
  | some node => exact absurd (hbefore.trans (h.kept names node hbefore).symm) hne

theorem base_eq (h : Grown way before after) (path : Path) : after.base path = before.base path := by
  simp [base, h.current_eq]

theorem leadsTo (h : Grown way before after) {path : Path} {names : List String}
    (hleads : before.LeadsTo path names) : after.LeadsTo path names := by
  obtain ⟨bound, node, hwalked⟩ := hleads
  have hfind : before.root.find? names = some node := hwalked.node_eq.symm
  have hbefore : before.root.at? names = some node.bare := by simp [at?, hfind]
  have hafter := h.kept names _ hbefore
  have hwalked' := hwalked.congr h.differsAtEnds (hbefore.trans hafter.symm)
  rw [at?, Option.map_eq_some_iff] at hafter
  obtain ⟨other, hother, -⟩ := hafter
  refine ⟨bound, other, ?_⟩
  rw [h.base_eq, ← hother]
  exact hwalked'

theorem trans (first : Grown way before middle) (second : Grown way middle after) :
    Grown way before after where
  current_eq := second.current_eq.trans first.current_eq
  home_eq := second.home_eq.trans first.home_eq
  kept := fun names node h => second.kept names node (first.kept names node h)
  made := by
    intro names hbefore hafter
    cases hmiddle : middle.root.at? names with
    | none => exact second.made names hmiddle hafter
    | some node =>
        obtain ⟨hdirectory, front, hfront, hleads⟩ :=
          first.made names hbefore (by simp [hmiddle])
        exact ⟨second.kept names _ hdirectory, front, hfront, second.leadsTo hleads⟩

/-- Growing depends on what stands where, and on nothing else of the later tree. -/
theorem of_same {other : Disk} (h : Grown way before after)
    (hcurrent : other.current = after.current) (hhome : other.home = after.home)
    (hsame : ∀ names, other.root.at? names = after.root.at? names) : Grown way before other := by
  have hgrown : Grown way after other :=
    { current_eq := hcurrent
      home_eq := hhome
      kept := fun names node hnode => (hsame names).trans hnode
      made := fun names hnone hsome => absurd ((hsame names).trans hnone) hsome }
  exact h.trans hgrown

end Grown

section Making

variable {disk after : Disk} {path way : Path}

theorem at?_put_directory {root : Node} {above names : List String} {last : String}
    {entries : List (String × Node)} (habove : root.find? above = some (directory entries))
    (hnone : root.find? (above ++ [last]) = none) :
    (root.put (above ++ [last]) (directory [])).at? names =
      if names = above ++ [last] then some (directory []) else root.at? names :=
  at?_put_leaf (by simp [at?_cons, child?]) habove (by simp [hnone])

theorem makeDirectory_grown (hanchor : path.anchor = way.anchor)
    (hnames : path.names <+: way.names) (h : disk.makeDirectory path = .ok after) :
    Grown way disk after := by
  unfold makeDirectory at h
  split_ifs at h with hup
  · split at h <;> simp at h
  split at h
  · simp at h
  · simp at h
  · next place hlocate =>
      obtain rfl : _ = after := by simpa using h
      obtain ⟨last, hlast⟩ : ∃ last, path.names.getLast? = some last := by
        cases hlast : path.names.getLast? <;> simp_all
      have hup : last ≠ ".." := by simpa [hlast] using hup
      have hwalked := walked_of_walk (search_eq_ok_iff.mp hlocate).2
      have hnone : disk.root.find? place = none := hwalked.node_eq.symm
      obtain ⟨rest, left, above, rfl, -, hwalk⟩ := hwalked.exists_last hlast hup
      by_cases habove : ∃ entries, disk.root.find? above = some (directory entries)
      · obtain ⟨entries, habove⟩ := habove
        have hput : ∀ names, (disk.root.put (above ++ [last]) (directory [])).at? names =
            if names = above ++ [last] then some (directory []) else disk.root.at? names :=
          fun names => at?_put_directory habove hnone
        have hdiffers : DiffersAtEnds disk.root
            (disk.root.put (above ++ [last]) (directory [])) := by
          intro names hne
          have hplace : names = above ++ [last] := by
            by_contra hother
            exact hne ((hput names).trans (if_neg hother)).symm
          simp [hplace, at?_eq_none_iff.mpr hnone]
        have hleads : LeadsTo { disk with root := disk.root.put (above ++ [last]) (directory []) }
            ⟨way.anchor, path.names⟩ (above ++ [last]) := by
          obtain ⟨others, hothers⟩ := at?_eq_directory_iff.mp
            ((hput (above ++ [last])).trans (if_pos rfl))
          have hstop : Walked (disk.root.put (above ++ [last]) (directory [])) true (rest + 1) left
              (above ++ [last]) [] ⟨above ++ [last], _⟩ := .stop rest left (above ++ [last])
          rw [hothers] at hstop
          have hwalked' := hwalk _ hdiffers true 1 _ (.directory hup hothers hstop)
          refine ⟨maxSteps + path.names.length + 1, directory others, ?_⟩
          rw [← hanchor]
          exact hwalked'
        refine ⟨rfl, rfl, ?_, ?_⟩
        · intro names node hnode
          have hother : names ≠ above ++ [last] := by
            rintro rfl
            simp [at?_eq_none_iff.mpr hnone] at hnode
          exact ((hput names).trans (if_neg hother)).trans hnode
        · intro names hbefore hafter
          by_cases hplace : names = above ++ [last]
          · subst hplace
            exact ⟨(hput _).trans (if_pos rfl), path.names, hnames, hleads⟩
          · exact absurd (((hput names).trans (if_neg hplace)).trans hbefore) hafter
      · exact (Grown.refl way disk).of_same rfl rfl fun names =>
          at?_put_of_no_directory fun entries hentries => habove ⟨entries, hentries⟩

theorem ensureDirectory_grown (hanchor : path.anchor = way.anchor)
    (hnames : path.names <+: way.names) (h : disk.ensureDirectory path = .ok after) :
    Grown way disk after := by
  unfold ensureDirectory at h
  split at h
  · next made hmade =>
      obtain rfl : made = after := by simpa using h
      exact makeDirectory_grown hanchor hnames hmade
  · split at h
    · obtain rfl : disk = after := by simpa using h
      exact .refl way disk
    · simp at h

/-- Making the directories of a path makes directories on its way only, whether or not that
succeeds. -/
theorem ensureDirectories_grown {anchor : Anchor} {names : List String}
    (hanchor : anchor = way.anchor) (hnames : names.reverse <+: way.names) :
    Grown way disk (disk.ensureDirectories anchor names).1 := by
  induction names generalizing disk with
  | nil =>
      unfold ensureDirectories
      split
      · next made hmade => exact ensureDirectory_grown hanchor hnames hmade
      · exact .refl way disk
  | cons last above ih =>
      have habove : above.reverse <+: way.names := by
        rw [List.reverse_cons] at hnames
        exact (List.prefix_append _ _).trans hnames
      unfold ensureDirectories
      dsimp only
      split
      · next made hmade => exact makeDirectory_grown hanchor hnames hmade
      · have hupper : Grown way disk (disk.ensureDirectories anchor above).1 := ih habove
        split
        · next made error hmade => simpa [hmade] using hupper
        · next made hmade =>
            have hgrown : Grown way disk made := by simpa [hmade] using hupper
            split
            · next last hlast =>
                exact hgrown.trans (ensureDirectory_grown hanchor hnames hlast)
            · exact hgrown
      · split <;> exact .refl way disk

end Making

end ProviderGen.Disk
