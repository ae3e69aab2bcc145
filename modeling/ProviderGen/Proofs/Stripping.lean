import ProviderGen.Proofs.Companion

namespace ProviderGen

variable {markers first second : List String}

/-- What a file name comes to without markers: the logical file of a companion, and an ordinary file
itself. -/
def strip (markers : List String) (name : String) : String :=
  (logicalName? markers name).getD name

/-- What is left of a file name when sets of markers are stripped from it, one after the other. -/
def stripEach (sets : List (List String)) (name : String) : String :=
  sets.foldl (fun name markers => strip markers name) name

theorem pieces_strip (markers : List String) (name : String) :
    Text.pieces '.' (strip markers name) = strippedSegments markers (Text.pieces '.' name) := by
  cases h : logicalName? markers name with
  | some target =>
      rw [strip, h]
      exact pieces_of_logicalName? h
  | none =>
      have hlength : (Text.pieces '.' name).length ≤
          (strippedSegments markers (Text.pieces '.' name)).length := by
        simpa [logicalName?] using h
      rw [strip, h]
      exact ((strippedSegments_sublist _).eq_of_length_le hlength).symm

theorem eq_of_pieces_eq {name other : String}
    (h : Text.pieces '.' name = Text.pieces '.' other) : name = other := by
  rw [← Text.intercalate_pieces '.' name, h, Text.intercalate_pieces]

theorem strip_strip {both : List String}
    (hboth : ∀ marker, marker ∈ both ↔ marker ∈ first ∨ marker ∈ second) (name : String) :
    strip second (strip first name) = strip both name := by
  apply eq_of_pieces_eq
  rw [pieces_strip, pieces_strip, pieces_strip, strippedSegments_union hboth]

theorem strip_nil (name : String) : strip [] name = name := by
  have hnone : logicalName? [] name = none := by
    cases h : logicalName? [] name with
    | none => rfl
    | some target =>
        obtain ⟨segment, -, hmarker⟩ := exists_logicalName?_iff.mp ⟨target, h⟩
        cases hmarker
  rw [strip, hnone, Option.getD_none]

theorem strip_congr {others : List String} (h : ∀ marker, marker ∈ markers ↔ marker ∈ others)
    (name : String) : strip markers name = strip others name := by
  rw [strip, strip, logicalName?_congr fun segment _ => h ("." ++ segment)]

/-- However many sets of markers are stripped, what is left is what stripping all of them at once
leaves. -/
theorem stripEach_eq (sets : List (List String)) (name : String) :
    stripEach sets name = strip sets.flatten name := by
  induction sets generalizing name with
  | nil => exact (strip_nil name).symm
  | cons markers sets ih =>
      have hstep : stripEach (markers :: sets) name = stripEach sets (strip markers name) := rfl
      rw [hstep, ih, List.flatten_cons]
      exact strip_strip (fun _ => List.mem_append) name

theorem head?_strippedSegments (segments : List String) :
    (strippedSegments markers segments).head? = segments.head? := by
  cases segments with
  | nil => rfl
  | cons stem rest => cases hlast : rest.getLast? <;> simp [strippedSegments, hlast]

theorem getLast?_strippedSegments (segments : List String) :
    (strippedSegments markers segments).getLast? = segments.getLast? := by
  cases segments with
  | nil => rfl
  | cons stem rest =>
      cases hlast : rest.getLast? with
      | none =>
          obtain rfl : rest = [] := by simpa using hlast
          rfl
      | some suffix => simp [strippedSegments, hlast, List.getLast?_cons]

/-- Stripping one set of markers and then another is stripping both, so it does not matter in which
order sets of markers are stripped. What is left is an ordinary file, with the stem and the suffix of
the name and those of its inner segments, in their order, that are no markers. -/
theorem strip_composes (name : String) :
    (∀ first second, strip second (strip first name) = strip (first ∪ second) name) ∧
    (∀ sets others, sets.Perm others → stripEach sets name = stripEach others name) ∧
    ∀ markers, logicalName? markers (strip markers name) = none ∧
      (Text.pieces '.' (strip markers name)).head? = (Text.pieces '.' name).head? ∧
      (Text.pieces '.' (strip markers name)).getLast? = (Text.pieces '.' name).getLast? ∧
      innerSegments (strip markers name) =
        (innerSegments name).filter fun segment => !markers.contains ("." ++ segment) := by
  refine ⟨?_, ?_, ?_⟩
  · intro first second
    exact strip_strip (fun _ => List.mem_union_iff) name
  · intro sets others hperm
    rw [stripEach_eq, stripEach_eq]
    exact strip_congr (fun _ => hperm.flatten.mem_iff) name
  · intro markers
    refine ⟨?_, ?_, ?_, ?_⟩
    · rw [logicalName?, pieces_strip]
      simp [strippedSegments_strippedSegments]
    · rw [pieces_strip, head?_strippedSegments]
    · rw [pieces_strip, getLast?_strippedSegments]
    · rw [innerSegments, pieces_strip, dropLast_tail_strippedSegments, innerSegments]

theorem strip_composes_mapper :
    [[".g"], [".mapper"]].Perm [[".mapper"], [".g"]] ∧
      stripEach [[".g"], [".mapper"]] "user.mapper.v2.g.py" = "user.v2.py" ∧
      stripEach [[".mapper"], [".g"]] "user.mapper.v2.g.py" = "user.v2.py" := by
  have hperm : [[".g"], [".mapper"]].Perm [[".mapper"], [".g"]] := List.Perm.swap _ _ _
  have heither := (strip_composes "user.mapper.v2.g.py").2.1 _ _ hperm
  have hfirst : stripEach [[".g"], [".mapper"]] "user.mapper.v2.g.py" = "user.v2.py" := by decide
  exact ⟨hperm, hfirst, heither.symm.trans hfirst⟩

end ProviderGen
