namespace ProviderGen.Text

/-- The pieces of a text between the occurrences of a separator; there is always at least one. -/
def split (separator : Char) : List Char → List (List Char)
  | [] => [[]]
  | c :: rest =>
      if c = separator then
        [] :: split separator rest
      else
        match split separator rest with
        | [] => [[c]]
        | piece :: pieces => (c :: piece) :: pieces

theorem split_ne_nil (separator : Char) (text : List Char) : split separator text ≠ [] := by
  cases text with
  | nil => simp [split]
  | cons c rest =>
      unfold split
      split
      · simp
      · split <;> simp

theorem intercalate_split (separator : Char) (text : List Char) :
    [separator].intercalate (split separator text) = text := by
  induction text with
  | nil => rfl
  | cons c rest ih =>
      have nonempty := split_ne_nil separator rest
      unfold split
      by_cases h : c = separator
      · subst h
        cases pieces : split c rest with
        | nil => exact absurd pieces nonempty
        | cons piece others =>
            rw [pieces] at ih
            simpa [List.intercalate, List.intersperse] using ih
      · cases pieces : split separator rest with
        | nil => exact absurd pieces nonempty
        | cons piece others =>
            rw [pieces] at ih
            cases others <;> simp_all [List.intercalate, List.intersperse]

theorem not_mem_of_mem_split {separator : Char} {text piece : List Char}
    (h : piece ∈ split separator text) : separator ∉ piece := by
  induction text generalizing piece with
  | nil => simp_all [split]
  | cons c rest ih =>
      unfold split at h
      by_cases hc : c = separator
      · simp only [hc, if_true, List.mem_cons] at h
        rcases h with rfl | h
        · simp
        · exact ih h
      · simp only [hc, if_false] at h
        have hs : separator ≠ c := fun e => hc e.symm
        cases pieces : split separator rest with
        | nil => simp_all
        | cons first others =>
            rw [pieces] at h ih
            simp only [List.mem_cons] at h
            rcases h with rfl | h
            · simpa [hs] using ih (List.mem_cons_self ..)
            · exact ih (List.mem_cons_of_mem _ h)

theorem split_of_not_mem {separator : Char} {text : List Char} (h : separator ∉ text) :
    split separator text = [text] := by
  induction text with
  | nil => rfl
  | cons c rest ih =>
      simp only [List.mem_cons, not_or] at h
      rw [split, if_neg (Ne.symm h.1), ih h.2]

theorem split_append_cons (separator : Char) (text rest : List Char) :
    split separator (text ++ separator :: rest) = split separator text ++ split separator rest := by
  induction text with
  | nil => simp [split]
  | cons c text ih =>
      rw [List.cons_append, split, split, ih]
      by_cases h : c = separator
      · simp [h]
      · cases hsplit : split separator text with
        | nil => exact absurd hsplit (split_ne_nil separator text)
        | cons piece pieces => simp [h]

theorem split_intercalate {separator : Char} {pieces : List (List Char)} (hnil : pieces ≠ [])
    (h : ∀ piece ∈ pieces, separator ∉ piece) :
    split separator ([separator].intercalate pieces) = pieces := by
  induction pieces with
  | nil => exact absurd rfl hnil
  | cons piece pieces ih =>
      have hpiece := h piece (List.mem_cons_self ..)
      cases pieces with
      | nil => simpa [List.intercalate_singleton] using split_of_not_mem hpiece
      | cons next others =>
          have hrest := ih (by simp) fun piece hmem => h piece (List.mem_cons_of_mem _ hmem)
          rw [List.intercalate_cons_cons, List.append_assoc, List.singleton_append,
            split_append_cons, split_of_not_mem hpiece, hrest, List.singleton_append]

/-- The pieces of a string between the occurrences of a separator. -/
def pieces (separator : Char) (text : String) : List String :=
  (split separator text.toList).map String.ofList

theorem pieces_ne_nil (separator : Char) (text : String) : pieces separator text ≠ [] := by
  simp [pieces, split_ne_nil]

theorem intercalate_pieces (separator : Char) (text : String) :
    (String.singleton separator).intercalate (pieces separator text) = text := by
  rw [← String.toList_inj, String.toList_intercalate, String.toList_singleton, pieces,
    List.map_map]
  simpa [Function.comp_def] using intercalate_split separator text.toList

theorem not_mem_of_mem_pieces {separator : Char} {text piece : String}
    (h : piece ∈ pieces separator text) : separator ∉ piece.toList := by
  obtain ⟨chars, hchars, rfl⟩ := List.mem_map.mp h
  rw [String.toList_ofList]
  exact not_mem_of_mem_split hchars

theorem pieces_append (separator : Char) (text rest : String) :
    pieces separator (text ++ String.singleton separator ++ rest) =
      pieces separator text ++ pieces separator rest := by
  have hchars : (text ++ String.singleton separator ++ rest).toList =
      text.toList ++ separator :: rest.toList := by simp
  rw [pieces, hchars, split_append_cons, List.map_append]
  rfl

theorem pieces_of_not_mem {separator : Char} {text : String} (h : separator ∉ text.toList) :
    pieces separator text = [text] := by
  rw [pieces, split_of_not_mem h, List.map_singleton, String.ofList_toList]

theorem pieces_intercalate (separator : Char) {texts : List String} (hnil : texts ≠ [])
    (h : ∀ text ∈ texts, separator ∉ text.toList) :
    pieces separator ((String.singleton separator).intercalate texts) = texts := by
  rw [pieces, String.toList_intercalate, String.toList_singleton, split_intercalate]
  · simp
  · simpa using hnil
  · intro piece hpiece
    obtain ⟨text, htext, rfl⟩ := List.mem_map.mp hpiece
    exact h text htext

end ProviderGen.Text
