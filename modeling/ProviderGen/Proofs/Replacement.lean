import ProviderGen.Proofs.Growth
import Mathlib.Data.List.Nodup
import Mathlib.Data.List.Perm.Subperm
import Mathlib.Logic.Function.Iterate

/-!
Replacing a file as a whole: a failure leaves nothing behind but empty directories on the way, and a
success changes one place only.
-/

namespace ProviderGen.Disk

open Node

section FreshNames

variable {entries : List (String × Node)} {name : String}

theorem mem_keys_of_child? (h : (child? name entries).isSome) : name ∈ entries.map Prod.fst := by
  induction entries with
  | nil => simp [child?] at h
  | cons first rest ih =>
      obtain ⟨key, node⟩ := first
      by_cases hkey : key = name
      · simp [hkey]
      · simp only [child?, if_neg hkey] at h
        exact List.mem_cons_of_mem _ (ih h)

def freshen (entries : List (String × Node)) (name : String) : String :=
  if (child? name entries).isSome then name ++ "#" else name

theorem freshen_iterate (entries : List (String × Node)) (name : String) (count : Nat) :
    child? ((freshen entries)^[count] name) entries = none ∨
      ((freshen entries)^[count] name).length = name.length + count ∧
        ∀ tried ≤ count, ((freshen entries)^[tried] name).length = name.length + tried ∧
          (child? ((freshen entries)^[tried] name) entries).isSome := by
  induction count with
  | zero =>
      cases h : child? name entries with
      | none => simp [h]
      | some node =>
          refine .inr ⟨rfl, ?_⟩
          intro tried htried
          obtain rfl : tried = 0 := by omega
          simp [h]
  | succ count ih =>
      rw [Function.iterate_succ_apply']
      rcases ih with hfree | ⟨hlength, htaken⟩
      · left
        simp [freshen, hfree]
      · have hnow := (htaken count (Nat.le_refl _)).2
        have hstep : freshen entries ((freshen entries)^[count] name) =
            (freshen entries)^[count] name ++ "#" := by simp [freshen, hnow]
        rw [hstep]
        cases h : child? ((freshen entries)^[count] name ++ "#") entries with
        | none => exact .inl rfl
        | some node =>
            have hlonger : ((freshen entries)^[count] name ++ "#").length =
                name.length + (count + 1) := by
              rw [String.length_append, hlength]
              rfl
            refine .inr ⟨hlonger, ?_⟩
            intro tried htried
            rcases Nat.lt_or_eq_of_le htried with hlt | rfl
            · exact htaken tried (by omega)
            · rw [Function.iterate_succ_apply', hstep]
              exact ⟨hlonger, by simp [h]⟩

theorem freshName_eq_iterate :
    freshName entries name = (freshen entries)^[entries.length] name := by
  have hfold : ∀ count, (List.range count).foldl (fun name _ => freshen entries name) name =
      (freshen entries)^[count] name := by
    intro count
    induction count with
    | zero => rfl
    | succ count ih =>
        rw [List.range_succ, List.foldl_append, ih, Function.iterate_succ_apply']
        rfl
  exact hfold entries.length

theorem child?_freshName : child? (freshName entries name) entries = none := by
  rw [freshName_eq_iterate]
  rcases freshen_iterate entries name entries.length with h | ⟨-, htaken⟩
  · exact h
  · exfalso
    let tries := (List.range (entries.length + 1)).map fun tried => (freshen entries)^[tried] name
    have hnodup : tries.Nodup := by
      apply List.Nodup.map_on _ (List.nodup_range)
      intro first hfirst second hsecond heq
      rw [List.mem_range] at hfirst hsecond
      have hfirst' := (htaken first (by omega)).1
      have hsecond' := (htaken second (by omega)).1
      rw [heq] at hfirst'
      omega
    have hsubset : tries ⊆ entries.map Prod.fst := by
      intro tried htried
      obtain ⟨count, hcount, rfl⟩ := List.mem_map.mp htried
      rw [List.mem_range] at hcount
      exact mem_keys_of_child? (htaken count (by omega)).2
    have hlength := (hnodup.subperm hsubset).length_le
    rw [List.length_map, List.length_map, List.length_range] at hlength
    omega

theorem length_le_freshName (entries : List (String × Node)) (name : String) :
    name.length ≤ (freshName entries name).length := by
  rw [freshName_eq_iterate]
  induction entries.length with
  | zero => exact Nat.le_refl _
  | succ count ih =>
      have hstep : ∀ tried, tried.length ≤ (freshen entries tried).length := by
        intro tried
        unfold freshen
        split
        · simp [String.length_append]
        · exact Nat.le_refl _
      rw [Function.iterate_succ_apply']
      exact Nat.le_trans ih (hstep _)

theorem length_temporaryName : (temporaryName name).length = name.length + 7 := by
  change ("." ++ name ++ ".#.tmp").length = name.length + 7
  rw [String.length_append, String.length_append]
  change 1 + name.length + 6 = name.length + 7
  omega

theorem freshName_temporaryName_ne : freshName entries (temporaryName name) ≠ name := by
  intro heq
  have hlength := length_le_freshName entries (temporaryName name)
  rw [heq, length_temporaryName] at hlength
  omega

end FreshNames

/-- A disk with a file put in one of its directories. -/
def withFile (disk : Disk) (place : List String) (content : List UInt8) : Disk :=
  { disk with root := disk.root.put place (.file content) }

/-- A disk without a temporary file that was in one of its directories. -/
def withoutTemporary (disk : Disk) (temporary : List String) (content : List UInt8) : Disk :=
  { disk with root := (disk.root.put temporary (.file content)).remove temporary }

/-- The ways in which replacing a file can end: without the directory for it, with the temporary
file taken back, or with the file in its place. -/
inductive Replaced (disk : Disk) (target : Path) (content : List UInt8) :
    Disk × Except DiskError Unit → Prop
  | noDirectory (error : DiskError) :
      Replaced disk target content (disk.prepared target, .error error)
  | takenBack {above : List String} {entries : List (String × Node)} (error : DiskError) :
      (disk.prepared target).root.find? above = some (.directory entries) →
      Replaced disk target content
        ((disk.prepared target).withoutTemporary
          (above ++ [freshName entries (temporaryName target.name)]) content, .error error)
  | inPlace {above place : List String} {entries : List (String × Node)} {old : Option Node}
      {made : Disk} :
      disk.ensureDirectories target.parent.anchor target.parent.names.reverse = (made, .ok ()) →
      made.locate (made.withoutParents target.parent) = .ok ⟨above, some (.directory entries)⟩ →
      (made.withFile (above ++ [freshName entries (temporaryName target.name)])
        content).locateItself target = .ok ⟨place, old⟩ →
      (∀ others, old ≠ some (.directory others)) →
      Replaced disk target content
        ({ made with
            root := (made.withoutTemporary
              (above ++ [freshName entries (temporaryName target.name)]) content).root.put place
                (.file content) }, .ok ())

theorem replaceFile_replaced (disk : Disk) (target : Path) (content : List UInt8) :
    Replaced disk target content (disk.replaceFile target content) := by
  unfold replaceFile
  split
  · next made error hmade =>
      have hprepared : disk.prepared target = made := by simp [prepared, hmade]
      exact hprepared ▸ .noDirectory error
  · next made hmade =>
      have hprepared : disk.prepared target = made := by simp [prepared, hmade]
      dsimp only
      split
      · exact hprepared ▸ .noDirectory _
      · exact hprepared ▸ .noDirectory _
      · next above entries hlocate =>
          have habove : made.root.find? above = some (.directory entries) :=
            (walked_of_search hlocate).node_eq.symm
          split
          · subst hprepared
            exact .takenBack _ habove
          · subst hprepared
            exact .takenBack _ habove
          · next place old hold hplace =>
              exact .inPlace hmade hlocate hplace hold
      · exact hprepared ▸ .noDirectory _

section Effects

variable {disk after made : Disk} {target : Path} {content : List UInt8} {above : List String}
  {entries : List (String × Node)}

theorem at?_withFile {temporary : String} {names : List String}
    (habove : made.root.find? above = some (.directory entries))
    (hfresh : child? temporary entries = none) :
    (made.withFile (above ++ [temporary]) content).root.at? names =
      if names = above ++ [temporary] then some (.file content) else made.root.at? names := by
  apply at?_put_leaf (by simp [at?_cons]) habove
  simp [find?_append, habove, find?_cons, hfresh]

theorem at?_withoutTemporary {temporary : String} {names : List String}
    (habove : made.root.find? above = some (.directory entries))
    (hfresh : child? temporary entries = none) :
    (made.withoutTemporary (above ++ [temporary]) content).root.at? names =
      made.root.at? names := by
  apply at?_remove_put
  simp [find?_append, habove, find?_cons, hfresh]

theorem prepared_grown (disk : Disk) (target : Path) :
    Grown target.parent disk (disk.prepared target) :=
  ensureDirectories_grown rfl (by simp)

/-- If a file cannot be replaced, the disk has only grown by directories on its way. -/
theorem replaceFile_grown_of_error {error : DiskError}
    (h : disk.replaceFile target content = (after, .error error)) :
    Grown target.parent disk after := by
  have hreplaced := replaceFile_replaced disk target content
  rw [h] at hreplaced
  cases hreplaced with
  | noDirectory => exact prepared_grown disk target
  | takenBack _ habove =>
      exact (prepared_grown disk target).of_same rfl rfl fun names =>
        at?_withoutTemporary habove child?_freshName

/-- What replacing a file comes to if it succeeds: the directories on its way are made, and then the
place that its path stands for holds the content, and nothing else has changed. A link at that
place is replaced itself; anything else there is read back as the content. -/
structure InPlace (disk : Disk) (target : Path) (content : List UInt8) (after : Disk) : Prop where
  exists_place : ∃ made place old,
    Grown target.parent disk made ∧ made.locateItself target = .ok ⟨place, old⟩ ∧
    (∀ names, after.root.at? names =
      if names = place then some (.file content) else made.root.at? names) ∧
    ((∀ link, old ≠ some (.link link)) → after.readBytes target = .ok content)
  current_eq : after.current = disk.current
  home_eq : after.home = disk.home

theorem withFile_differsAtEnds {temporary : String}
    (habove : made.root.find? above = some (.directory entries))
    (hfresh : child? temporary entries = none) :
    DiffersAtEnds (made.withFile (above ++ [temporary]) content).root made.root := by
  intro names hne
  have hat : (made.withFile (above ++ [temporary]) content).root.at? names =
      if names = above ++ [temporary] then some (.file content) else made.root.at? names :=
    at?_withFile habove hfresh
  by_cases hplace : names = above ++ [temporary]
  · rw [if_pos hplace] at hat
    simp [hat]
  · exact absurd (hat.trans (if_neg hplace)) hne

theorem locateItself_of_withFile {temporary : String} {place : List String}
    {old : Option Node} (habove : made.root.find? above = some (.directory entries))
    (hfresh : child? temporary entries = none) (hplace : place ≠ above ++ [temporary])
    (h : (made.withFile (above ++ [temporary]) content).locateItself target =
      .ok ⟨place, old⟩) :
    made.locateItself target = .ok ⟨place, made.root.find? place⟩ := by
  have hsame : (made.withFile (above ++ [temporary]) content).root.at? place =
      made.root.at? place := by
    rw [at?_withFile habove hfresh, if_neg hplace]
  have hwalked := (walked_of_search h).congr (withFile_differsAtEnds habove hfresh) hsame
  exact search_eq_ok_iff.mpr ⟨(search_eq_ok_iff.mp h).1, walk_of_walked hwalked⟩

theorem locate_of_put {place : List String} {last : String} {old : Option Node}
    (hlast : target.names.getLast? = some last) (hup : last ≠ "..")
    (hlocate : made.locateItself target = .ok ⟨place, old⟩)
    (hold : ∀ others, old ≠ some (.directory others)) (hlink : ∀ link, old ≠ some (.link link))
    (hcurrent : after.current = made.current)
    (hafter : ∀ names, after.root.at? names =
      if names = place then some (.file content) else made.root.at? names) :
    after.locate target = .ok ⟨place, some (.file content)⟩ := by
  have hwalked := walked_of_search hlocate
  have hnode : made.root.find? place = old := hwalked.node_eq.symm
  have hdiffers : DiffersAtEnds made.root after.root := by
    intro names hne
    by_cases hplace : names = place
    · subst hplace
      constructor
      · intro hdirectory
        obtain ⟨others, hothers⟩ := at?_eq_directory_iff.mp hdirectory
        exact hold others (hnode.symm.trans hothers)
      · intro link hlink'
        exact hlink link (hnode.symm.trans (at?_eq_link_iff.mp hlink'))
    · exact absurd ((hafter names).trans (if_neg hplace)).symm hne
  obtain ⟨rest, left, front, rfl, -, hwalk⟩ := hwalked.exists_last hlast hup
  have hfile : after.root.find? (front ++ [last]) = some (.file content) :=
    at?_eq_file_iff.mp ((hafter _).trans (if_pos rfl))
  have hfound := walk_of_walked (hwalk after.root hdiffers true 0 _ (.file hup hfile))
  have hbase : after.base target = made.base target := by simp [base, hcurrent]
  refine search_eq_ok_iff.mpr ⟨(search_eq_ok_iff.mp hlocate).1, ?_⟩
  rw [hbase]
  exact hfound

theorem getLast?_of_locateItself {place : List String} {last : String} {old : Option Node}
    (hlast : target.names.getLast? = some last) (hup : last ≠ "..")
    (h : made.locateItself target = .ok ⟨place, old⟩) : place.getLast? = some last := by
  obtain ⟨-, -, front, rfl, -⟩ := (walked_of_search h).exists_last hlast hup
  exact List.getLast?_concat

theorem ne_temporary_of_locateItself {place : List String} {last : String} {old : Option Node}
    (hlast : target.names.getLast? = some last) (hup : last ≠ "..")
    (h : made.locateItself target = .ok ⟨place, old⟩) :
    place ≠ above ++ [freshName entries (temporaryName target.name)] := by
  rintro rfl
  have hname : target.name = last := by simp [Path.name, hlast]
  have hlast' := getLast?_of_locateItself hlast hup h
  rw [List.getLast?_concat, Option.some.injEq, ← hname] at hlast'
  exact freshName_temporaryName_ne hlast'

theorem find?_ne_directory_of_withFile {temporary : String} {place : List String}
    {old : Option Node} (habove : made.root.find? above = some (.directory entries))
    (hfresh : child? temporary entries = none) (hplace : place ≠ above ++ [temporary])
    (h : (made.withFile (above ++ [temporary]) content).locateItself target =
      .ok ⟨place, old⟩)
    (hold : ∀ others, old ≠ some (.directory others)) :
    ∀ others, made.root.find? place ≠ some (.directory others) := by
  intro others hothers
  have hsame : (made.withFile (above ++ [temporary]) content).root.at? place =
      made.root.at? place := by
    rw [at?_withFile habove hfresh, if_neg hplace]
  obtain ⟨inner, hinner⟩ := at?_eq_directory_iff.mp
    (hsame.trans (at?_eq_directory_iff.mpr ⟨others, hothers⟩))
  rw [← (walked_of_search h).node_eq] at hinner
  exact hold inner hinner

theorem exists_place_of_replaceFile {last : String} (habsolute : target.isAbsolute)
    (hlast : target.names.getLast? = some last) (hup : last ≠ "..")
    (h : disk.replaceFile target content = (after, .ok ())) :
    ∃ place old, (disk.prepared target).locateItself target = .ok ⟨place, old⟩ ∧
      (∀ others, old ≠ some (.directory others)) ∧
      (∀ names, after.root.at? names =
        if names = place then some (.file content) else (disk.prepared target).root.at? names) ∧
      after.current = (disk.prepared target).current ∧ after.home = (disk.prepared target).home := by
  have hreplaced := replaceFile_replaced disk target content
  rw [h] at hreplaced
  cases hreplaced with
  | @inPlace above place entries old made hmade hdirectory hplace hold =>
      have habove : made.root.find? above = some (.directory entries) :=
        (walked_of_search hdirectory).node_eq.symm
      obtain rfl : disk.prepared target = made := by simp [prepared, hmade]
      have hne : place ≠ above ++ [freshName entries (temporaryName target.name)] :=
        ne_temporary_of_locateItself hlast hup hplace
      have hold' := find?_ne_directory_of_withFile habove child?_freshName hne hplace hold
      have hlocate := locateItself_of_withFile habove child?_freshName hne hplace
      refine ⟨place, _, hlocate, hold', ?_, rfl, rfl⟩
      intro names
      obtain ⟨rest, left, front, rfl, hfront, -⟩ :=
        (walked_of_search hlocate).exists_last hlast hup
      have hbase : (disk.prepared target).base target = [] := by simp [base, habsolute]
      obtain ⟨others, hothers⟩ := hfront (by simpa [hbase] using exists_top habove)
      have hclean : ∀ names, ((disk.prepared target).withoutTemporary
          (above ++ [freshName entries (temporaryName target.name)]) content).root.at? names =
            (disk.prepared target).root.at? names :=
        fun names => at?_withoutTemporary habove child?_freshName
      obtain ⟨others', hothers'⟩ := at?_eq_directory_iff.mp
        ((hclean front).trans (at?_eq_directory_iff.mpr ⟨others, hothers⟩))
      rw [at?_put_leaf (by simp [at?_cons]) hothers', hclean]
      · rfl
      · intro entries' hentries'
        have hinner := at?_eq_directory_iff.mp
          ((hclean _).symm.trans (at?_eq_directory_iff.mpr ⟨entries', hentries'⟩))
        exact hold' _ hinner.choose_spec

/-- If a file is replaced, one place holds the content and all others are as they were, but for the
directories on the way. -/
theorem replaceFile_inPlace {last : String} (habsolute : target.isAbsolute)
    (hlast : target.names.getLast? = some last) (hup : last ≠ "..")
    (h : disk.replaceFile target content = (after, .ok ())) :
    InPlace disk target content after := by
  obtain ⟨place, old, hlocate, hold, hafter, hcurrent, hhome⟩ :=
    exists_place_of_replaceFile habsolute hlast hup h
  have hgrown := prepared_grown disk target
  refine ⟨⟨_, place, old, hgrown, hlocate, hafter, fun hlink => ?_⟩,
    hcurrent.trans hgrown.current_eq, hhome.trans hgrown.home_eq⟩
  exact readBytes_eq_ok_iff.mpr
    ⟨place, locate_of_put hlast hup hlocate hold hlink hcurrent hafter⟩

/-- The place that a path stands for holds a content on another disk. The path leads there, unless
it is a link that gave its place away. -/
structure Placed (before : Disk) (target : Path) (content : List UInt8) (after : Disk) : Prop where
  exists_place : ∃ place old, before.locateItself target = .ok ⟨place, old⟩ ∧
    after.root.at? place = some (.file content) ∧
    ((∀ link, old ≠ some (.link link)) →
      after.locate target = .ok ⟨place, some (.file content)⟩)

end Effects

end ProviderGen.Disk
