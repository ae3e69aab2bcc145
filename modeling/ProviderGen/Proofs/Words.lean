import Mathlib
import ProviderGen.Proofs.Naming

namespace ProviderGen

instance : DecidablePred IsWordPart := fun _ => inferInstanceAs (Decidable (_ ∨ _))

section Words

variable {c : Char} {text word rest : List Char}

/-- The letters of ASCII and the digits of a text. -/
def wordParts (text : List Char) : List Char := text.filter IsWordPart

@[simp]
theorem wordParts_append (text rest : List Char) :
    wordParts (text ++ rest) = wordParts text ++ wordParts rest :=
  List.filter_append ..

theorem wordParts_cons_of_not_isWordPart (h : ¬ IsWordPart c) (rest : List Char) :
    wordParts (c :: rest) = wordParts rest :=
  List.filter_cons_of_neg (by simpa using h)

theorem wordParts_eq_self (h : ∀ c ∈ text, IsWordPart c) : wordParts text = text :=
  List.filter_eq_self.mpr (by simpa using h)

theorem isDecimalDigit_eq_false_of_letter (h : isCapital c = true ∨ isSmall c = true) :
    Text.isDecimalDigit c = false := by
  rw [← Bool.not_eq_true, Text.isDecimalDigit_iff]
  rintro ⟨base, hbase, hlow, hhigh⟩
  have hascii := (isAlpha_of_letter h).1
  have hletter : 0x41 ≤ c.toNat := by
    simp only [isCapital, isSmall, Bool.and_eq_true, decide_eq_true_eq] at h
    rcases h with h | h
    · exact h.1
    · exact Nat.le_trans (by decide) h.1
  rcases Text.exists_range_of_mem_scriptZeros hbase with rfl | ⟨habove, -⟩
  · omega
  · omega

theorem isSmall_eq_false_of_isCapital (h : isCapital c = true) : isSmall c = false := by
  simp only [isCapital, Bool.and_eq_true, decide_eq_true_eq] at h
  simp only [isSmall, Bool.and_eq_false_iff, decide_eq_false_iff_not]
  exact .inl fun hlow => absurd (Char.le_trans hlow h.2) (by decide)

theorem wordLength_eq_zero_iff : wordLength (c :: rest) = 0 ↔ ¬ IsWordPart c := by
  cases hcapital : isCapital c with
  | true =>
      obtain ⟨more, hlength⟩ :
          ∃ more, (List.takeWhile isCapital (c :: rest)).length = more + 1 := by
        rw [List.takeWhile_cons_of_pos hcapital]
        exact ⟨_, List.length_cons⟩
      have hpart : IsWordPart c := .inl hcapital
      simp only [wordLength, hlength, hpart, not_true, iff_false]
      split
      · simp [hcapital]
      · cases more with
        | zero => simp
        | succ more => simp
  | false =>
      have hcapitals : List.takeWhile isCapital (c :: rest) = [] := by simp [hcapital]
      have hfrom : List.dropWhile isCapital (c :: rest) = c :: rest := by simp [hcapital]
      cases hsmall : isSmall c with
      | true => simp [wordLength, hcapitals, hfrom, hsmall, IsWordPart]
      | false =>
          cases hdigit : Text.isDecimalDigit c with
          | true => simp [wordLength, hcapitals, hfrom, hcapital, hsmall, hdigit, IsWordPart]
          | false => simp [wordLength, hcapitals, hfrom, hcapital, hsmall, hdigit, IsWordPart]

theorem flatten_wordsWithin {bound : Nat} (hbound : text.length ≤ bound) :
    (wordsWithin bound text).flatten = wordParts text := by
  induction bound generalizing text with
  | zero =>
      obtain rfl := List.length_eq_zero_iff.mp (Nat.le_zero.mp hbound)
      rfl
  | succ bound ih =>
      cases text with
      | nil => rfl
      | cons c rest =>
          have hrest : rest.length ≤ bound := Nat.le_of_succ_le_succ hbound
          unfold wordsWithin
          split
          next hlength =>
            rw [ih hrest, wordParts_cons_of_not_isWordPart (wordLength_eq_zero_iff.mp hlength)]
          next length hlength =>
            have hword : ∀ d ∈ c :: rest.take length, IsWordPart d := by
              intro d hd
              have htake : c :: rest.take length = (c :: rest).take (wordLength (c :: rest)) := by
                rw [hlength, List.take_succ_cons]
              rw [htake] at hd
              exact isWordPart_of_mem_take hd
            have hdrop : (rest.drop length).length ≤ bound := by
              rw [List.length_drop]
              omega
            calc
              _ = (c :: rest.take length) ++ wordParts (rest.drop length) := by
                rw [List.flatten_cons, ih hdrop]
              _ = wordParts ((c :: rest.take length) ++ rest.drop length) := by
                rw [wordParts_append, wordParts_eq_self hword]
              _ = wordParts (c :: rest) := by rw [List.cons_append, List.take_append_drop]

theorem flatten_wordsOf (text : List Char) : (wordsOf text).flatten = wordParts text :=
  flatten_wordsWithin (Nat.le_refl _)

theorem map_toLower_capitalised (word : List Char) :
    (capitalised word).map Char.toLower = word.map Char.toLower := by
  cases word with
  | nil => rfl
  | cons first rest => simp [capitalised]

/-- The words of a text, with capitals, differ from its letters and digits in case only. -/
theorem map_toLower_capitalised_wordsOf (text : List Char) :
    ((wordsOf text).flatMap capitalised).map Char.toLower = (wordParts text).map Char.toLower := by
  rw [← flatten_wordsOf, List.map_flatMap, List.map_flatten, List.flatMap_def]
  simp only [map_toLower_capitalised]

theorem isDecimalDigit_toLower (c : Char) :
    Text.isDecimalDigit c.toLower = Text.isDecimalDigit c := by
  cases hcapital : isCapital c with
  | true =>
      rw [isDecimalDigit_eq_false_of_letter (.inl hcapital),
        isDecimalDigit_eq_false_of_letter (.inr (isSmall_toLower hcapital))]
  | false => rw [toLower_of_not_capital hcapital]

end Words

/-- The name of a text holds exactly the letters and digits of the text, in order, but for their
case. An underscore stands in front of it exactly if the first of these is a digit, and the name is
`Project` if there are none. -/
theorem pascalCase_wordParts (text : String) :
    match wordParts text.toList with
    | [] => pascalCase text = "Project"
    | first :: rest =>
        ∃ name : List Char,
          (pascalCase text).toList =
            (if Text.isDecimalDigit first then '_' :: name else name) ∧
          '_' ∉ name ∧ name.map Char.toLower = (first :: rest).map Char.toLower := by
  have hlower := map_toLower_capitalised_wordsOf text.toList
  have hparts : ∀ c ∈ (wordsOf text.toList).flatMap capitalised, IsWordPart c :=
    fun c hc => isWordPart_of_mem_capitalised_wordsOf hc
  unfold pascalCase
  cases hjoined : (wordsOf text.toList).flatMap capitalised with
  | nil =>
      obtain hnone : wordParts text.toList = [] := by simpa [hjoined] using hlower.symm
      rw [hnone]
  | cons head tail =>
      rw [hjoined] at hlower hparts
      cases hkept : wordParts text.toList with
      | nil => simp [hkept] at hlower
      | cons first rest =>
          rw [hkept] at hlower
          have hfirst : head.toLower = first.toLower := (List.cons.inj hlower).1
          have hdigit : Text.isDecimalDigit head = Text.isDecimalDigit first := by
            rw [← isDecimalDigit_toLower, hfirst, isDecimalDigit_toLower]
          have hunderscore : '_' ∉ head :: tail := fun hmem => absurd (hparts _ hmem) (by decide)
          refine ⟨head :: tail, ?_, hunderscore, hlower⟩
          simp only [hdigit]
          split
          · rw [String.toList_ofList]
          · rw [String.toList_ofList]

example : pascalCase "٣rd-HTTPServer v2" = "_٣RdHttpServerV2" := by decide

end ProviderGen
