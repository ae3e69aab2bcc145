import ProviderGen.Text.Sorted
import Mathlib.Data.List.Nodup
import Mathlib.Data.List.Sort
import Mathlib.Data.String.Basic

namespace ProviderGen.Text

section SortBy

variable {α : Type} {key : α → String} {items others : List α}

theorem perm_insertBy (key : α → String) (item : α) (items : List α) :
    (insertBy key item items).Perm (item :: items) := by
  induction items with
  | nil => exact List.Perm.refl _
  | cons other rest ih =>
      unfold insertBy
      split
      · exact (ih.cons other).trans (List.Perm.swap item other rest)
      · exact List.Perm.refl _

theorem perm_sortBy (key : α → String) (items : List α) : (sortBy key items).Perm items := by
  induction items with
  | nil => exact List.Perm.refl _
  | cons item items ih => exact (perm_insertBy key item _).trans (ih.cons item)

theorem pairwise_insertBy (item : α)
    (h : items.Pairwise fun first second => key first ≤ key second) :
    (insertBy key item items).Pairwise fun first second => key first ≤ key second := by
  induction items with
  | nil => exact List.pairwise_singleton _ _
  | cons other rest ih =>
      obtain ⟨hother, hrest⟩ := List.pairwise_cons.mp h
      unfold insertBy
      split
      next hless =>
        refine List.pairwise_cons.mpr ⟨?_, ih hrest⟩
        intro later hlater
        rcases List.mem_cons.mp ((perm_insertBy key item rest).mem_iff.mp hlater) with rfl | hmem
        · exact hless.le
        · exact hother later hmem
      next hnot =>
        have hle : key item ≤ key other := not_lt.mp hnot
        refine List.pairwise_cons.mpr ⟨?_, h⟩
        intro later hlater
        rcases List.mem_cons.mp hlater with rfl | hmem
        · exact hle
        · exact hle.trans (hother later hmem)

theorem pairwise_sortBy (key : α → String) (items : List α) :
    (sortBy key items).Pairwise fun first second => key first ≤ key second := by
  induction items with
  | nil => exact List.Pairwise.nil
  | cons item items ih => exact pairwise_insertBy item ih

theorem sortBy_eq_of_perm (hkeys : (items.map key).Nodup) (h : items.Perm others) :
    sortBy key items = sortBy key others := by
  have hperm : (sortBy key items).Perm (sortBy key others) :=
    (perm_sortBy key items).trans (h.trans (perm_sortBy key others).symm)
  refine List.Perm.eq_of_pairwise ?_ (pairwise_sortBy key items) (pairwise_sortBy key others) hperm
  intro first second hfirst hsecond hle hge
  refine List.inj_on_of_nodup_map hkeys ((perm_sortBy key items).mem_iff.mp hfirst) ?_
    (le_antisymm hle hge)
  exact h.mem_iff.mpr ((perm_sortBy key others).mem_iff.mp hsecond)

section Map

variable {β : Type} {f : α → β} (name : β → String) (hname : ∀ item, name (f item) = key item)

include hname

theorem map_insertBy (item : α) (items : List α) :
    (insertBy key item items).map f = insertBy name (f item) (items.map f) := by
  induction items with
  | nil => rfl
  | cons other rest ih =>
      rw [insertBy, List.map_cons, insertBy, hname, hname]
      split
      · rw [List.map_cons, ih]
      · rfl

theorem map_sortBy (items : List α) : (sortBy key items).map f = sortBy name (items.map f) := by
  induction items with
  | nil => rfl
  | cons item items ih =>
      have hstep : sortBy key (item :: items) = insertBy key item (sortBy key items) := rfl
      rw [hstep, map_insertBy name hname, ih]
      rfl

theorem map_sortBy_eq_of_mem_iff (hitems : (items.map key).Nodup) (hothers : (others.map key).Nodup)
    (h : ∀ value, value ∈ items.map f ↔ value ∈ others.map f) :
    (sortBy key items).map f = (sortBy key others).map f := by
  have hkeys : ∀ items : List α, (items.map f).map name = items.map key := by
    intro items
    rw [List.map_map]
    exact List.map_congr_left fun item _ => hname item
  rw [map_sortBy name hname, map_sortBy name hname]
  refine sortBy_eq_of_perm (by rwa [hkeys]) ((List.perm_ext_iff_of_nodup ?_ ?_).mpr h)
  · exact List.Nodup.of_map name (by rwa [hkeys])
  · exact List.Nodup.of_map name (by rwa [hkeys])

end Map

end SortBy

theorem pairwise_insertOnce {text : String} {texts : List String} (h : texts.Pairwise (· < ·)) :
    (insertOnce text texts).Pairwise (· < ·) := by
  induction texts with
  | nil => exact List.pairwise_singleton _ _
  | cons first rest ih =>
      obtain ⟨hfirst, hrest⟩ := List.pairwise_cons.mp h
      unfold insertOnce
      split
      · exact h
      next hne =>
        split
        next hless =>
          refine List.pairwise_cons.mpr ⟨?_, ih hrest⟩
          intro later hlater
          rcases mem_insertOnce.mp hlater with rfl | hmem
          · exact hless
          · exact hfirst later hmem
        next hnot =>
          have hless : text < first := lt_of_le_of_ne (not_lt.mp hnot) hne
          refine List.pairwise_cons.mpr ⟨?_, h⟩
          intro later hlater
          rcases List.mem_cons.mp hlater with rfl | hmem
          · exact hless
          · exact hless.trans (hfirst later hmem)

theorem pairwise_sortOnce (texts : List String) : (sortOnce texts).Pairwise (· < ·) := by
  induction texts with
  | nil => exact List.Pairwise.nil
  | cons text texts ih => exact pairwise_insertOnce ih

theorem sortOnce_eq_of_mem_iff {texts others : List String}
    (h : ∀ text, text ∈ texts ↔ text ∈ others) : sortOnce texts = sortOnce others := by
  refine (pairwise_sortOnce texts).eq_of_mem_iff (pairwise_sortOnce others) ?_
  intro text
  rw [mem_sortOnce, mem_sortOnce, h]

end ProviderGen.Text
