import ProviderGen.Proofs.Order
import ProviderGen.Proofs.Replacement

namespace ProviderGen.Disk

open Node

section Walking

variable {root other : Node} {follow : Bool} {bound links more : Nat}
  {here names : List String} {place : Place}

theorem Walked.of_linkFree (h : Walked root follow bound links here names place)
    (hfree : root.LinkFree) (hmore : names.length < more) (goes : Bool) :
    Walked root goes more links here names place := by
  induction h generalizing more with
  | stop bound links here =>
      obtain ⟨more, rfl⟩ : ∃ k, more = k + 1 := ⟨more - 1, by omega⟩
      exact .stop more links here
  | up _ ih =>
      obtain ⟨more, rfl⟩ : ∃ k, more = k + 1 := ⟨more - 1, by omega⟩
      exact .up (ih (by simpa using hmore))
  | absent hup hnone =>
      obtain ⟨more, rfl⟩ : ∃ k, more = k + 1 := ⟨more - 1, by omega⟩
      exact .absent hup hnone
  | directory hup hfind _ ih =>
      obtain ⟨more, rfl⟩ : ∃ k, more = k + 1 := ⟨more - 1, by omega⟩
      exact .directory hup hfind (ih (by simpa using hmore))
  | file hup hfind =>
      obtain ⟨more, rfl⟩ : ∃ k, more = k + 1 := ⟨more - 1, by omega⟩
      exact .file hup hfind
  | linkItself _ hfind _ => exact absurd hfind (hfree.find?_ne_link _ _)
  | link _ hfind _ _ _ => exact absurd hfind (hfree.find?_ne_link _ _)

theorem Walked.congr_directory {goal : List String} {entries : List (String × Node)}
    (h : Walked root follow bound links here names ⟨goal, some (.directory entries)⟩)
    (hdiffers : DiffersAtEnds root other) :
    ∃ others, other.find? goal = some (.directory others) ∧
      Walked other follow bound links here names ⟨goal, some (.directory others)⟩ := by
  have hfind : root.find? goal = some (.directory entries) := h.node_eq.symm
  obtain ⟨others, hothers⟩ := hdiffers.directory hfind
  refine ⟨others, hothers, ?_⟩
  rw [← hothers]
  refine h.congr hdiffers ?_
  rw [at?_eq_directory_iff.mpr ⟨entries, hfind⟩, at?_eq_directory_iff.mpr ⟨others, hothers⟩]

theorem DiffersAtEnds.trans {middle : Node} (first : DiffersAtEnds root middle)
    (second : DiffersAtEnds middle other) : DiffersAtEnds root other := by
  intro names hne
  by_cases hfirst : root.at? names = middle.at? names
  · rw [hfirst] at hne ⊢
    exact second names hne
  · exact first names hfirst

theorem Walked.parent {last : String} {goal : List String}
    (h : Walked root follow bound links here goal place) (hgoal : goal = names ++ [last])
    (hfree : root.LinkFree) (hup : last ≠ "..")
    (hhere : ∃ entries, root.find? here = some (.directory entries)) :
    ∃ above entries, place.names = above ++ [last] ∧
      Walked root follow bound links here names ⟨above, some (.directory entries)⟩ := by
  have hstop : ∀ bound links here, (∃ entries, root.find? here = some (.directory entries)) →
      ∃ entries, Walked root follow (bound + 1) links here []
        ⟨here, some (.directory entries)⟩ := by
    rintro bound links here ⟨entries, hentries⟩
    exact ⟨entries, hentries ▸ .stop bound links here⟩
  induction h generalizing names with
  | stop bound links here => simp at hgoal
  | @up bound links here rest place _ ih =>
      cases names with
      | nil => exact absurd (by simpa using (List.cons.inj hgoal).1.symm) hup
      | cons first names =>
          obtain ⟨rfl, rfl⟩ := List.cons.inj hgoal
          obtain ⟨entries, hentries⟩ := hhere
          obtain ⟨above, found, hplace, hwalk⟩ := ih rfl (find?_dropLast_eq_directory hentries)
          exact ⟨above, found, hplace, .up hwalk⟩
  | @absent bound links here name _ _ =>
      obtain ⟨rfl, rfl⟩ : names = [] ∧ name = last := by cases names <;> simp_all
      obtain ⟨entries, hwalk⟩ := hstop bound links here hhere
      exact ⟨here, entries, rfl, hwalk⟩
  | @directory bound links here name rest place entries hname hfind hbelow ih =>
      cases names with
      | nil =>
          obtain ⟨rfl, rfl⟩ : name = last ∧ rest = [] := by simpa using hgoal
          cases hbelow
          obtain ⟨others, hwalk⟩ := hstop _ links here hhere
          exact ⟨here, others, rfl, hwalk⟩
      | cons first names =>
          obtain ⟨rfl, rfl⟩ := List.cons.inj hgoal
          obtain ⟨above, found, hplace, hwalk⟩ := ih rfl ⟨entries, hfind⟩
          exact ⟨above, found, hplace, .directory hname hfind hwalk⟩
  | @file bound links here name content _ _ =>
      obtain ⟨rfl, rfl⟩ : names = [] ∧ name = last := by cases names <;> simp_all
      obtain ⟨entries, hwalk⟩ := hstop bound links here hhere
      exact ⟨here, entries, rfl, hwalk⟩
  | linkItself _ hfind _ => exact absurd hfind (hfree.find?_ne_link _ _)
  | link _ hfind _ _ _ => exact absurd hfind (hfree.find?_ne_link _ _)

end Walking

section Making

variable {disk after : Disk} {path : Path}

theorem makeDirectory_eq_ok (h : disk.makeDirectory path = .ok after) :
    ∃ names, disk.root.find? names = none ∧
      after = { disk with root := disk.root.put names (.directory []) } := by
  unfold makeDirectory at h
  split_ifs at h
  · split at h <;> cases h
  · split at h
    · cases h
    · cases h
    · next names hlocate =>
        have hnone : disk.root.find? names = none := (walked_of_search hlocate).node_eq.symm
        exact ⟨names, hnone, (Except.ok.inj h).symm⟩

theorem ensureDirectory_preserves {P : Disk → Prop}
    (hmake : ∀ {disk path after}, P disk → makeDirectory disk path = .ok after → P after)
    (hdisk : P disk) (h : disk.ensureDirectory path = .ok after) : P after := by
  unfold ensureDirectory at h
  split at h
  · next made hmade => exact Except.ok.inj h ▸ hmake hdisk hmade
  · split_ifs at h
    exact Except.ok.inj h ▸ hdisk

theorem ensureDirectories_preserves {P : Disk → Prop}
    (hmake : ∀ {disk path after}, P disk → makeDirectory disk path = .ok after → P after)
    (hdisk : P disk) (anchor : Anchor) (names : List String) :
    P (disk.ensureDirectories anchor names).1 := by
  induction names generalizing disk with
  | nil =>
      unfold ensureDirectories
      split
      · next made hmade => exact ensureDirectory_preserves hmake hdisk hmade
      · exact hdisk
  | cons last above ih =>
      have hupper := ih hdisk
      unfold ensureDirectories
      dsimp only
      split
      · next made hmade => exact hmake hdisk hmade
      · split
        · next made error hmade => simpa [hmade] using hupper
        · next made hmade =>
            have hmade' : P made := by simpa [hmade] using hupper
            split
            · next lower hlower => exact ensureDirectory_preserves hmake hmade' hlower
            · exact hmade'
      · split_ifs <;> exact hdisk

theorem locateItself_of_locate {place : Place} (hfree : disk.root.LinkFree)
    (h : disk.locate path = .ok place) : disk.locateItself path = .ok place :=
  search_eq_ok_iff.mpr ⟨(search_eq_ok_iff.mp h).1,
    walk_of_walked ((walked_of_search h).of_linkFree hfree (by simp [maxSteps]) false)⟩

theorem makeDirectory_of_isDirectory (hfree : disk.root.LinkFree) (h : disk.isDirectory path) :
    disk.makeDirectory path = .error .alreadyThere := by
  obtain ⟨names, entries, hlocate⟩ := isDirectory_iff.mp h
  have hitself := locateItself_of_locate hfree hlocate
  unfold makeDirectory
  split_ifs
  · rw [hlocate]
  · rw [hitself]

theorem ensureDirectories_of_isDirectory {anchor : Anchor} {names : List String}
    (hfree : disk.root.LinkFree) (h : disk.isDirectory ⟨anchor, names.reverse⟩) :
    disk.ensureDirectories anchor names = (disk, .ok ()) := by
  have hmake := makeDirectory_of_isDirectory hfree h
  cases names with
  | nil =>
      have hthere : disk.ensureDirectory ⟨anchor, []⟩ = .ok disk := by
        simp only [List.reverse_nil] at hmake h
        simp [ensureDirectory, hmake, h]
      simp [ensureDirectories, hthere]
  | cons last above => simp only [ensureDirectories, hmake, h, if_true]

end Making

section Again

variable {disk after made : Disk} {target : Path} {content : List UInt8} {last : String}
  {place : List String}

theorem withoutParents_congr {other : Disk} (h : other.current = disk.current) (path : Path) :
    other.withoutParents path = disk.withoutParents path := by
  simp [withoutParents, base, h]

/-- A disk with all that it takes to put a file in its place. -/
structure Ready (made : Disk) (target : Path) (place : List String) : Prop where
  ordered : made.root.Ordered
  linkFree : made.root.LinkFree
  top : ∃ entries, made.root.find? [] = some (.directory entries)
  beside : ∃ above entries,
    made.locate (made.withoutParents target.parent) = .ok ⟨above, some (.directory entries)⟩
  located : made.locateItself target = .ok ⟨place, made.root.find? place⟩
  noDirectory : ∀ entries, made.root.find? place ≠ some (.directory entries)

theorem ordered_linkFree_prepared (hordered : disk.root.Ordered) (hfree : disk.root.LinkFree)
    (target : Path) :
    (disk.prepared target).root.Ordered ∧ (disk.prepared target).root.LinkFree := by
  refine ensureDirectories_preserves
    (P := fun disk => disk.root.Ordered ∧ disk.root.LinkFree) ?_ ⟨hordered, hfree⟩ _ _
  rintro disk path after ⟨hordered, hfree⟩ hmake
  obtain ⟨names, -, rfl⟩ := makeDirectory_eq_ok hmake
  have hempty : (directory []).Ordered := .directory .nil (by simp)
  exact ⟨hordered.put hempty names, hfree.put (.directory (by simp)) names⟩

theorem find?_freshName {above : List String} {entries : List (String × Node)} (name : String)
    (habove : made.root.find? above = some (.directory entries)) :
    made.root.find? (above ++ [freshName entries name]) = none := by
  simp [find?_append, habove, find?_cons, child?_freshName]

theorem ready_of_replaceFile (hordered : disk.root.Ordered) (hfree : disk.root.LinkFree)
    (hlast : target.names.getLast? = some last) (hup : last ≠ "..")
    (h : disk.replaceFile target content = (after, .ok ())) :
    ∃ place, Ready (disk.prepared target) target place ∧
      after = (disk.prepared target).withFile place content := by
  have hreplaced := replaceFile_replaced disk target content
  rw [h] at hreplaced
  cases hreplaced with
  | @inPlace above place entries old made hmade hdirectory hplace hold =>
      have hprepared : disk.prepared target = made := by simp [prepared, hmade]
      have hgrown := prepared_grown disk target
      obtain ⟨hordered', hfree'⟩ := ordered_linkFree_prepared hordered hfree target
      rw [hprepared] at hgrown hordered' hfree' ⊢
      have habove : made.root.find? above = some (.directory entries) :=
        (walked_of_search hdirectory).node_eq.symm
      have hne : place ≠ above ++ [freshName entries (temporaryName target.name)] :=
        ne_temporary_of_locateItself hlast hup hplace
      have hlocate := locateItself_of_withFile habove child?_freshName hne hplace
      refine ⟨place, ⟨hordered', hfree', ?_, ⟨above, entries, hdirectory⟩, hlocate, ?_⟩, ?_⟩
      · exact exists_top habove
      · exact find?_ne_directory_of_withFile habove child?_freshName hne hplace hold
      · rw [withoutTemporary, remove_put _ hordered' (find?_freshName _ habove), withFile]

namespace Ready

theorem exists_front (h : Ready made target place) (habsolute : target.isAbsolute)
    (hlast : target.names.getLast? = some last) (hup : last ≠ "..") :
    ∃ front, place = front ++ [last] ∧ ∀ content names,
      (made.withFile place content).root.at? names =
        if names = place then some (.file content) else made.root.at? names := by
  have hbase : made.base target = [] := by simp [base, habsolute]
  obtain ⟨rest, left, front, hplace, hfront, -⟩ :=
    (walked_of_search h.located).exists_last hlast hup
  dsimp only at hplace
  subst hplace
  obtain ⟨inner, hinner⟩ := hfront (hbase ▸ h.top)
  exact ⟨front, rfl, fun content names => at?_put_leaf (by simp [at?_cons]) hinner h.noDirectory⟩

theorem differsAtEnds (h : Ready made target place) (habsolute : target.isAbsolute)
    (hlast : target.names.getLast? = some last) (hup : last ≠ "..") (content : List UInt8) :
    DiffersAtEnds made.root (made.withFile place content).root := by
  obtain ⟨front, -, hat⟩ := h.exists_front habsolute hlast hup
  intro names hne
  by_cases hnames : names = place
  · subst hnames
    constructor
    · intro hdirectory
      obtain ⟨entries, hentries⟩ := at?_eq_directory_iff.mp hdirectory
      exact h.noDirectory entries hentries
    · intro link hlink
      exact h.linkFree.find?_ne_link _ link (at?_eq_link_iff.mp hlink)
  · exact absurd ((hat content names).trans (if_neg hnames)).symm hne

theorem isDirectory_parent (h : Ready made target place) (content : List UInt8)
    (habsolute : target.isAbsolute) (hlast : target.names.getLast? = some last) (hup : last ≠ "..") :
    (made.withFile place content).isDirectory target.parent := by
  have hbase : made.base target = [] := by simp [base, habsolute]
  have hnames : target.names = target.parent.names ++ [last] :=
    (List.dropLast_append_getLast? last hlast).symm
  obtain ⟨above, entries, -, hwalk⟩ := (walked_of_search h.located).parent hnames h.linkFree hup
    (hbase ▸ h.top)
  have hmore : target.parent.names.length < maxSteps + target.parent.names.length := by
    simp [maxSteps]
  have hshort := hwalk.of_linkFree h.linkFree hmore true
  obtain ⟨others, -, hwalk'⟩ := hshort.congr_directory
    (h.differsAtEnds habsolute hlast hup content)
  have hnull : target.parent.holdsNull = false := by
    have htarget := (search_eq_ok_iff.mp h.located).1
    rw [Path.holdsNull, hnames, List.any_append, Bool.or_eq_false_iff] at htarget
    exact htarget.1
  exact isDirectory_iff.mpr
    ⟨above, others, search_eq_ok_iff.mpr ⟨hnull, walk_of_walked hwalk'⟩⟩

theorem locateItself_withFile {above : List String} {entries : List (String × Node)}
    (h : Ready made target place) (name : String) (habsolute : target.isAbsolute)
    (hlast : target.names.getLast? = some last) (hup : last ≠ "..")
    (habove : (made.withFile place content).root.find? above = some (.directory entries)) :
    ((made.withFile place content).withFile (above ++ [freshName entries name])
      content).locateItself target = .ok ⟨place, some (.file content)⟩ := by
  generalize hname : freshName entries name = temporary
  have hfresh : child? temporary entries = none := hname ▸ child?_freshName
  obtain ⟨front, rfl, hat⟩ := h.exists_front habsolute hlast hup
  have hwith : ∀ names, ((made.withFile (front ++ [last]) content).withFile
      (above ++ [temporary]) content).root.at? names = if names = above ++ [temporary] then
        some (.file content) else (made.withFile (front ++ [last]) content).root.at? names :=
    fun names => at?_withFile habove hfresh
  have hnew : DiffersAtEnds (made.withFile (front ++ [last]) content).root
      ((made.withFile (front ++ [last]) content).withFile (above ++ [temporary]) content).root := by
    intro names hne
    by_cases hnames : names = above ++ [temporary]
    · have hnone : (made.withFile (front ++ [last]) content).root.at? names = none := by
        simp [hnames, at?, find?_append, habove, find?_cons, hfresh]
      simp [hnone]
    · exact absurd ((hwith names).trans (if_neg hnames)).symm hne
  have hfile : ((made.withFile (front ++ [last]) content).withFile (above ++ [temporary])
      content).root.find? (front ++ [last]) = some (.file content) := by
    rw [← at?_eq_file_iff, hwith, hat, if_pos rfl, ite_self]
  have hdiffers := (h.differsAtEnds habsolute hlast hup content).trans hnew
  obtain ⟨rest, left, above', hplace, -, hwalk⟩ :=
    (walked_of_search h.located).exists_last hlast hup
  obtain ⟨rfl, -⟩ := List.append_inj' hplace rfl
  exact search_eq_ok_iff.mpr ⟨(search_eq_ok_iff.mp h.located).1,
    walk_of_walked (hwalk _ hdiffers false 0 _ (.file hup hfile))⟩

/-- Replacing a file by what it holds since it was replaced changes nothing. -/
theorem replaceFile_withFile (h : Ready made target place) (habsolute : target.isAbsolute)
    (hlast : target.names.getLast? = some last) (hup : last ≠ "..") :
    (made.withFile place content).replaceFile target content = (made.withFile place content, .ok ()) := by
  obtain ⟨above, entries, hbeside⟩ := h.beside
  have hdiffers := h.differsAtEnds habsolute hlast hup content
  have hordered : (made.withFile place content).root.Ordered := h.ordered.put (.file content) place
  have hfree : (made.withFile place content).root.LinkFree := h.linkFree.put (.file content) place
  have hparent := h.isDirectory_parent content habsolute hlast hup
  have hensure : (made.withFile place content).ensureDirectories target.parent.anchor
      target.parent.names.reverse = (made.withFile place content, .ok ()) :=
    ensureDirectories_of_isDirectory hfree (by simpa using hparent)
  obtain ⟨others, habove, hwalk⟩ := (walked_of_search hbeside).congr_directory hdiffers
  have hbeside' : (made.withFile place content).locate
      ((made.withFile place content).withoutParents target.parent) =
        .ok ⟨above, some (.directory others)⟩ := by
    have hsame : (made.withFile place content).withoutParents target.parent =
        made.withoutParents target.parent := withoutParents_congr rfl _
    rw [hsame]
    exact search_eq_ok_iff.mpr ⟨(search_eq_ok_iff.mp hbeside).1, walk_of_walked hwalk⟩
  have hlocated := h.locateItself_withFile (temporaryName target.name) habsolute hlast hup habove
  rw [withFile] at hlocated
  have hfresh := find?_freshName (temporaryName target.name) habove
  have hclean := remove_put (.file content) hordered hfresh
  simp only [replaceFile, hensure, hbeside', hlocated, hclean]
  simp only [withFile, put_put]

end Ready

end Again

end ProviderGen.Disk
