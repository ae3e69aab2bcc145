import ProviderGen.Disk.Access
import ProviderGen.Proofs.Tree

namespace ProviderGen.Disk

open Node

/-- The names that the target of a link counts from. -/
def linkStart (target : Path) (here : List String) : List String :=
  if target.isAbsolute then [] else here

/-- Walking from a directory along names comes to a place, within a number of steps and of links. -/
inductive Walked (root : Node) (follow : Bool) :
    Nat → Nat → List String → List String → Place → Prop
  | stop (bound links : Nat) (here : List String) :
      Walked root follow (bound + 1) links here [] ⟨here, root.find? here⟩
  | up {bound links : Nat} {here rest : List String} {place : Place} :
      Walked root follow bound links here.dropLast rest place →
      Walked root follow (bound + 1) links here (".." :: rest) place
  | absent {bound links : Nat} {here : List String} {name : String} :
      name ≠ ".." → root.find? (here ++ [name]) = none →
      Walked root follow (bound + 1) links here [name] ⟨here ++ [name], none⟩
  | directory {bound links : Nat} {here : List String} {name : String} {rest : List String}
      {place : Place} {entries : List (String × Node)} :
      name ≠ ".." → root.find? (here ++ [name]) = some (.directory entries) →
      Walked root follow bound links (here ++ [name]) rest place →
      Walked root follow (bound + 1) links here (name :: rest) place
  | file {bound links : Nat} {here : List String} {name : String} {content : List UInt8} :
      name ≠ ".." → root.find? (here ++ [name]) = some (.file content) →
      Walked root follow (bound + 1) links here [name] ⟨here ++ [name], some (.file content)⟩
  | linkItself {bound links : Nat} {here : List String} {name target : String} :
      name ≠ ".." → root.find? (here ++ [name]) = some (.link target) → follow = false →
      Walked root follow (bound + 1) links here [name] ⟨here ++ [name], some (.link target)⟩
  | link {bound links : Nat} {here : List String} {name target : String} {rest : List String}
      {place : Place} :
      name ≠ ".." → root.find? (here ++ [name]) = some (.link target) →
      (rest ≠ [] ∨ follow = true) →
      Walked root follow bound links (linkStart (.ofString target) here)
        ((Path.ofString target).names ++ rest) place →
      Walked root follow (bound + 1) (links + 1) here (name :: rest) place

section Walking

variable {root other : Node} {follow : Bool} {bound links : Nat} {here names : List String}
  {place : Place}

theorem walk_of_walked (h : Walked root follow bound links here names place) :
    walk root follow bound links here names = .ok place := by
  induction h with
  | stop bound links here => rfl
  | up _ ih => rw [walk, if_pos rfl, ih]
  | absent hup hnone => simp [walk, hup, hnone]
  | directory hup hfind _ ih => simp [walk, hup, hfind, ih]
  | file hup hfind => simp [walk, hup, hfind]
  | linkItself hup hfind hfollow => simp [walk, hup, hfind, hfollow]
  | @link bound links here name target rest place hup hfind hgoes _ ih =>
      have hfinal : (rest.isEmpty && !follow) = false := by
        rcases hgoes with hrest | hfollow
        · simp [hrest]
        · simp [hfollow]
      rw [linkStart] at ih
      simp [walk, hup, hfind, hfinal, ih]

theorem walked_of_walk (h : walk root follow bound links here names = .ok place) :
    Walked root follow bound links here names place := by
  induction bound generalizing links here names with
  | zero => simp [walk] at h
  | succ bound ih =>
      cases names with
      | nil =>
          obtain rfl : _ = place := by simpa [walk] using h
          exact .stop bound links here
      | cons name rest =>
          by_cases hup : name = ".."
          · subst hup
            rw [walk, if_pos rfl] at h
            exact .up (ih h)
          rw [walk, if_neg hup] at h
          dsimp only at h
          split at h
          · next hnone =>
              cases rest with
              | nil =>
                  obtain rfl : _ = place := by simpa using h
                  exact .absent hup hnone
              | cons second rest => simp at h
          · next entries hdirectory => exact .directory hup hdirectory (ih h)
          · next content hfile =>
              cases rest with
              | nil =>
                  obtain rfl : _ = place := by simpa using h
                  exact .file hup hfile
              | cons second rest => simp at h
          · next target hlink =>
              split at h
              · next hfinal =>
                  obtain ⟨hrest, hfollow⟩ : rest = [] ∧ follow = false := by simpa using hfinal
                  subst hrest
                  obtain rfl : _ = place := by simpa using h
                  exact .linkItself hup hlink hfollow
              · next hfinal =>
                  have hgoes : rest ≠ [] ∨ follow = true := by
                    cases rest <;> simp_all
                  cases links with
                  | zero => simp at h
                  | succ links => exact .link hup hlink hgoes (ih h)

theorem Walked.node_eq (h : Walked root follow bound links here names place) :
    place.node = root.find? place.names := by
  induction h with
  | stop bound links here => rfl
  | up _ ih => exact ih
  | absent _ hnone => exact hnone.symm
  | directory _ _ _ ih => exact ih
  | file _ hfind => exact hfind.symm
  | linkItself _ hfind _ => exact hfind.symm
  | link _ _ _ _ ih => exact ih

/-- One tree differs from another only where the first has nothing that a way goes through. -/
def DiffersAtEnds (root other : Node) : Prop :=
  ∀ names, root.at? names ≠ other.at? names →
    root.at? names ≠ some (.directory []) ∧ ∀ target, root.at? names ≠ some (.link target)

theorem DiffersAtEnds.directory (h : DiffersAtEnds root other) {entries : List (String × Node)}
    (hfind : root.find? names = some (.directory entries)) :
    ∃ others, other.find? names = some (.directory others) := by
  have hroot : root.at? names = some (.directory []) := at?_eq_directory_iff.mpr ⟨entries, hfind⟩
  apply at?_eq_directory_iff.mp
  by_contra hother
  exact (h names fun heq => hother (heq ▸ hroot)).1 hroot

theorem DiffersAtEnds.link (h : DiffersAtEnds root other) {target : String}
    (hfind : root.find? names = some (.link target)) :
    other.find? names = some (.link target) := by
  have hroot : root.at? names = some (.link target) := at?_eq_link_iff.mpr hfind
  apply at?_eq_link_iff.mp
  by_contra hother
  exact (h names fun heq => hother (heq ▸ hroot)).2 target hroot

theorem Walked.congr (h : Walked root follow bound links here names place)
    (hdiffers : DiffersAtEnds root other)
    (hsame : root.at? place.names = other.at? place.names) :
    Walked other follow bound links here names ⟨place.names, other.find? place.names⟩ := by
  induction h with
  | stop bound links here => exact .stop bound links here
  | up _ ih => exact .up (ih hsame)
  | absent hup hnone =>
      have hother := at?_eq_none_iff.mp (hsame ▸ at?_eq_none_iff.mpr hnone)
      dsimp only
      rw [hother]
      exact .absent hup hother
  | directory hup hfind _ ih =>
      obtain ⟨others, hother⟩ := hdiffers.directory hfind
      exact .directory hup hother (ih hsame)
  | file hup hfind =>
      have hother := at?_eq_file_iff.mp (hsame ▸ at?_eq_file_iff.mpr hfind)
      dsimp only
      rw [hother]
      exact .file hup hother
  | linkItself hup hfind hfollow =>
      have hother := hdiffers.link hfind
      dsimp only
      rw [hother]
      exact .linkItself hup hother hfollow
  | link hup hfind hgoes _ ih => exact .link hup (hdiffers.link hfind) hgoes (ih hsame)

/-- Walking to a last name comes to a directory first, the same way in every tree that differs at
ends only, and then takes that name. -/
theorem Walked.exists_last {last : String}
    (h : Walked root false bound links here names place)
    (hlast : names.getLast? = some last) (hup : last ≠ "..") :
    ∃ rest left above, place.names = above ++ [last] ∧
      ((∃ entries, root.find? here = some (.directory entries)) →
        ∃ entries, root.find? above = some (.directory entries)) ∧
      ∀ other, DiffersAtEnds root other → ∀ follow more goal,
        Walked other follow (rest + 1 + more) left above [last] goal →
        Walked other follow (bound + more) links here names goal := by
  induction h with
  | stop bound links here => simp at hlast
  | @up bound links here rest place _ ih =>
      have hrest : rest.getLast? = some last := by
        cases rest with
        | nil => exact absurd (by simpa using hlast.symm) hup
        | cons second rest => simpa using hlast
      obtain ⟨steps, left, above, hplace, hdirectory, hwalk⟩ := ih hrest
      refine ⟨steps, left, above, hplace, ?_, ?_⟩
      · rintro ⟨entries, hfind⟩
        exact hdirectory (find?_dropLast_eq_directory hfind)
      · intro other hdiffers follow more goal hgoal
        rw [Nat.add_right_comm]
        exact .up (hwalk other hdiffers follow more goal hgoal)
  | @absent bound links here name _ hnone =>
      obtain rfl : name = last := by simpa using hlast
      exact ⟨bound, links, here, rfl, id, fun _ _ _ _ _ hgoal => hgoal⟩
  | @directory bound links here name rest place entries hname hfind hbelow ih =>
      cases rest with
      | nil =>
          obtain rfl : name = last := by simpa using hlast
          cases hbelow
          exact ⟨_, links, here, rfl, id, fun _ _ _ _ _ hgoal => hgoal⟩
      | cons second rest =>
          obtain ⟨steps, left, above, hplace, hdirectory, hwalk⟩ := ih (by simpa using hlast)
          refine ⟨steps, left, above, hplace, fun _ => hdirectory ⟨entries, hfind⟩, ?_⟩
          intro other hdiffers follow more goal hgoal
          obtain ⟨others, hother⟩ := hdiffers.directory hfind
          rw [Nat.add_right_comm]
          exact .directory hname hother (hwalk other hdiffers follow more goal hgoal)
  | @file bound links here name content _ hfind =>
      obtain rfl : name = last := by simpa using hlast
      exact ⟨bound, links, here, rfl, id, fun _ _ _ _ _ hgoal => hgoal⟩
  | @linkItself bound links here name target _ hfind _ =>
      obtain rfl : name = last := by simpa using hlast
      exact ⟨bound, links, here, rfl, id, fun _ _ _ _ _ hgoal => hgoal⟩
  | @link bound links here name target rest place hname hfind hgoes _ ih =>
      have hrest : rest ≠ [] := by simpa using hgoes
      have hlast' : ((Path.ofString target).names ++ rest).getLast? = some last := by
        cases rest with
        | nil => exact absurd rfl hrest
        | cons second rest => simpa using hlast
      obtain ⟨steps, left, above, hplace, hdirectory, hwalk⟩ := ih hlast'
      refine ⟨steps, left, above, hplace, ?_, ?_⟩
      · rintro ⟨entries, hhere⟩
        apply hdirectory
        unfold linkStart
        split
        · exact exists_top hhere
        · exact ⟨entries, hhere⟩
      · intro other hdiffers follow more goal hgoal
        rw [Nat.add_right_comm]
        exact .link hname (hdiffers.link hfind) (.inl hrest)
          (hwalk other hdiffers follow more goal hgoal)

end Walking

section Access

variable {disk : Disk} {path : Path}

theorem search_eq_ok_iff {follow : Bool} {place : Place} : disk.search follow path = .ok place ↔
    path.holdsNull = false ∧
      walk disk.root follow (maxSteps + path.names.length) maxLinks (disk.base path) path.names =
        .ok place := by
  unfold search
  split <;> simp_all

theorem walked_of_search {follow : Bool} {place : Place}
    (h : disk.search follow path = .ok place) :
    Walked disk.root follow (maxSteps + path.names.length) maxLinks (disk.base path) path.names
      place :=
  walked_of_walk (search_eq_ok_iff.mp h).2

theorem isDirectory_iff : disk.isDirectory path ↔
    ∃ names entries, disk.locate path = .ok ⟨names, some (.directory entries)⟩ := by
  unfold isDirectory
  split
  · next names entries hlocate => simp [hlocate]
  · next hother => simpa using hother

theorem readBytes_eq_ok_iff {content : List UInt8} :
    disk.readBytes path = .ok content ↔
      ∃ names, disk.locate path = .ok ⟨names, some (.file content)⟩ := by
  unfold readBytes
  dsimp only
  split
  · next fault hlocate => simp [hlocate]
  · next names other hlocate => simp [hlocate]
  · next names node hnode hlocate => simpa [hlocate] using hnode content
  · next names hlocate => simp [hlocate]

theorem find?_of_directoryAt? {place : List String}
    {entries : List (String × Node)} (h : disk.directoryAt? path = some (place, entries)) :
    disk.locate path = .ok ⟨place, some (.directory entries)⟩ ∧
      disk.root.find? place = some (.directory entries) := by
  unfold directoryAt? at h
  split at h
  · next names others hlocate =>
      obtain ⟨rfl, rfl⟩ : names = place ∧ others = entries := by simpa using h
      exact ⟨hlocate, (walked_of_search hlocate).node_eq.symm⟩
  · cases h

end Access

end ProviderGen.Disk
