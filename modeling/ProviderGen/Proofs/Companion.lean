import ProviderGen.Companion
import Mathlib.Data.List.Basic

namespace ProviderGen

variable {markers first second : List String} {segments : List String}

theorem strippedSegments_sublist (segments : List String) :
    (strippedSegments markers segments).Sublist segments := by
  cases segments with
  | nil => exact List.Sublist.refl _
  | cons stem rest =>
      cases hlast : rest.getLast? with
      | none => simp [strippedSegments, hlast]
      | some suffix =>
          have hkept : (rest.dropLast.filter (fun segment => !markers.contains ("." ++ segment)) ++
              [suffix]).Sublist (rest.dropLast ++ [suffix]) :=
            List.filter_sublist.append_right [suffix]
          rw [List.dropLast_append_getLast? suffix hlast] at hkept
          simp only [strippedSegments, hlast, List.cons_append]
          exact hkept.cons_cons stem

theorem strippedSegments_ne_nil (h : segments ≠ []) :
    strippedSegments markers segments ≠ [] := by
  cases segments with
  | nil => exact absurd rfl h
  | cons stem rest => cases hlast : rest.getLast? <;> simp [strippedSegments, hlast]

theorem strippedSegments_union {both : List String}
    (hboth : ∀ marker, marker ∈ both ↔ marker ∈ first ∨ marker ∈ second) :
    strippedSegments second (strippedSegments first segments) = strippedSegments both segments := by
  cases segments with
  | nil => rfl
  | cons stem rest =>
      cases hlast : rest.getLast? with
      | none => simp [strippedSegments, hlast]
      | some suffix =>
          have hkept : ∀ segment, (!second.contains ("." ++ segment) && !first.contains ("." ++ segment)) =
              !both.contains ("." ++ segment) := by
            intro segment
            simp only [List.contains_eq_mem, hboth, ← Bool.not_or, Bool.decide_or, Bool.or_comm]
          simp only [strippedSegments, hlast, List.cons_append, List.dropLast_concat,
            List.getLast?_concat, List.filter_filter, hkept]

/-- Stripping takes away all the markers at once. -/
theorem strippedSegments_strippedSegments (segments : List String) :
    strippedSegments markers (strippedSegments markers segments) =
      strippedSegments markers segments :=
  strippedSegments_union fun _ => (or_self_iff ..).symm

theorem getLast?_tail_strippedSegments (segments : List String) :
    (strippedSegments markers segments).tail.getLast? = segments.tail.getLast? := by
  cases segments with
  | nil => rfl
  | cons stem rest => cases hlast : rest.getLast? <;> simp [strippedSegments, hlast]

theorem pieces_of_logicalName? {name target : String}
    (h : logicalName? markers name = some target) :
    Text.pieces '.' target = strippedSegments markers (Text.pieces '.' name) := by
  unfold logicalName? at h
  dsimp only at h
  split at h
  · obtain rfl := Option.some.inj h
    refine Text.pieces_intercalate '.' ?_ ?_
    · exact strippedSegments_ne_nil (Text.pieces_ne_nil _ _)
    · intro segment hsegment
      exact Text.not_mem_of_mem_pieces ((strippedSegments_sublist _).subset hsegment)
  · cases h

theorem logicalName?_of_logicalName? {name target : String}
    (h : logicalName? markers name = some target) : logicalName? markers target = none := by
  unfold logicalName?
  dsimp only
  rw [pieces_of_logicalName? h, strippedSegments_strippedSegments, if_neg (Nat.lt_irrefl _)]

/-- The segments of a file name between its stem and its suffix. -/
def innerSegments (fileName : String) : List String :=
  (Text.pieces '.' fileName).tail.dropLast

theorem dropLast_tail_strippedSegments (segments : List String) :
    (strippedSegments markers segments).tail.dropLast =
      segments.tail.dropLast.filter fun segment => !markers.contains ("." ++ segment) := by
  cases segments with
  | nil => rfl
  | cons stem rest =>
      cases hlast : rest.getLast? with
      | none =>
          obtain rfl : rest = [] := by simpa using hlast
          rfl
      | some suffix => simp [strippedSegments, hlast]

theorem length_strippedSegments (segments : List String) :
    (strippedSegments markers segments).length + segments.tail.dropLast.length =
      segments.length + (strippedSegments markers segments).tail.dropLast.length := by
  rw [dropLast_tail_strippedSegments]
  cases segments with
  | nil => rfl
  | cons stem rest =>
      cases hlast : rest.getLast? with
      | none =>
          obtain rfl : rest = [] := by simpa using hlast
          rfl
      | some suffix =>
          have hrest : rest ≠ [] := by
            rintro rfl
            cases hlast
          have hlength := List.length_pos_iff.mpr hrest
          simp only [strippedSegments, hlast, List.cons_append, List.length_cons,
            List.length_append, List.length_dropLast, List.tail_cons, List.length_nil]
          omega

theorem logicalName?_congr {others : List String} {name : String}
    (h : ∀ segment ∈ innerSegments name,
      ("." ++ segment ∈ markers ↔ "." ++ segment ∈ others)) :
    logicalName? markers name = logicalName? others name := by
  have hstripped : strippedSegments markers (Text.pieces '.' name) =
      strippedSegments others (Text.pieces '.' name) := by
    rw [innerSegments] at h
    cases hpieces : Text.pieces '.' name with
    | nil => rfl
    | cons stem rest =>
        rw [hpieces] at h
        have hfilter : (rest.dropLast.filter fun segment => !markers.contains ("." ++ segment)) =
            rest.dropLast.filter fun segment => !others.contains ("." ++ segment) := by
          refine List.filter_congr ?_
          intro segment hsegment
          simp only [List.contains_eq_mem, h segment hsegment]
        simp only [strippedSegments, hfilter]
  rw [logicalName?, logicalName?, hstripped]

theorem exists_logicalName?_iff {name : String} :
    (∃ target, logicalName? markers name = some target) ↔
      ∃ segment ∈ innerSegments name, "." ++ segment ∈ markers := by
  have hlength : (strippedSegments markers (Text.pieces '.' name)).length +
      (Text.pieces '.' name).tail.dropLast.length = _ := length_strippedSegments _
  rw [dropLast_tail_strippedSegments] at hlength
  have hfilter :
      ((Text.pieces '.' name).tail.dropLast.filter fun segment =>
        !markers.contains ("." ++ segment)).length <
          (Text.pieces '.' name).tail.dropLast.length ↔ _ :=
    List.length_filter_lt_length_iff_exists
  simp only [Bool.not_eq_true, Bool.not_eq_false', List.contains_iff_mem] at hfilter
  rw [innerSegments, ← hfilter, logicalName?]
  split
  · simp only [Option.some.injEq, exists_eq', true_iff]
    omega
  · simp only [reduceCtorEq, exists_false, false_iff]
    omega

theorem mem_innerSegments_of_logicalName? {name target segment : String}
    (h : logicalName? markers name = some target) :
    segment ∈ innerSegments target ↔ segment ∈ innerSegments name ∧ "." ++ segment ∉ markers := by
  rw [innerSegments, pieces_of_logicalName? h, dropLast_tail_strippedSegments, List.mem_filter]
  simp [innerSegments]

end ProviderGen
