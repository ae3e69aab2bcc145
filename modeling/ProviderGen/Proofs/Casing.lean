import ProviderGen.Proofs.Words

namespace ProviderGen

section WordsOf

variable {c : Char} {text word rest : List Char}

theorem wordsWithin_congr {bound other : Nat} (hbound : text.length ≤ bound)
    (hother : text.length ≤ other) : wordsWithin bound text = wordsWithin other text := by
  induction bound generalizing other text with
  | zero =>
      obtain rfl := List.length_eq_zero_iff.mp (Nat.le_zero.mp hbound)
      cases other <;> rfl
  | succ bound ih =>
      cases text with
      | nil => cases other <;> rfl
      | cons c rest =>
          cases other with
          | zero => cases hother
          | succ other =>
              have hrest : rest.length ≤ bound := Nat.le_of_succ_le_succ hbound
              have hrest' : rest.length ≤ other := Nat.le_of_succ_le_succ hother
              have hdrop : ∀ n, (rest.drop n).length ≤ rest.length := by simp
              unfold wordsWithin
              split
              · exact ih hrest hrest'
              next length _ =>
                rw [ih ((hdrop length).trans hrest) ((hdrop length).trans hrest')]

theorem wordsOf_cons_of_not_isWordPart (h : ¬ IsWordPart c) :
    wordsOf (c :: rest) = wordsOf rest := by
  rw [wordsOf, List.length_cons, wordsWithin, wordLength_eq_zero_iff.mpr h]
  rfl

theorem wordsOf_append (hword : word ≠ []) (hlength : wordLength (word ++ rest) = word.length) :
    wordsOf (word ++ rest) = word :: wordsOf rest := by
  obtain ⟨c, tail, rfl⟩ := List.exists_cons_of_ne_nil hword
  rw [List.cons_append, List.length_cons] at hlength
  have hdrop : (tail ++ rest).drop tail.length = rest := List.drop_left
  have htake : (tail ++ rest).take tail.length = tail := List.take_left
  have hbound : rest.length ≤ (tail ++ rest).length := by simp
  rw [List.cons_append, wordsOf, List.length_cons, wordsWithin, hlength]
  simp only [htake, hdrop]
  rw [wordsWithin_congr hbound (Nat.le_refl _), wordsOf]

end WordsOf

/-- A word of small letters, at least two of them. -/
structure IsPlain (word : List Char) : Prop where
  small : ∀ c ∈ word, isSmall c = true
  long : 2 ≤ word.length

instance : DecidablePred IsPlain := fun word =>
  decidable_of_iff (word.all isSmall = true ∧ 2 ≤ word.length)
    ⟨fun h => ⟨List.all_eq_true.mp h.1, h.2⟩, fun h => ⟨List.all_eq_true.mpr h.small, h.long⟩⟩

/-- A word with a capital for its first letter. -/
def titled : List Char → List Char
  | [] => []
  | first :: rest => first.toUpper :: rest

/-- Words with capitals, and nothing between them. -/
def inPascalCase (words : List (List Char)) : List Char := words.flatMap titled

/-- Characters that belong to no word. -/
def IsGap (gap : List Char) : Prop := ∀ c ∈ gap, ¬ IsWordPart c

instance : DecidablePred IsGap := fun gap =>
  decidable_of_iff (gap.all (¬ IsWordPart ·) = true) (by simp [IsGap])

/-- A text where no word of small letters goes on. -/
def EndsWord (rest : List Char) : Prop := ∀ c ∈ rest.head?, isSmall c = false

/-- Texts that spell some words: each word in small letters or with a capital, after any gap, and no
word right before small letters. -/
inductive Spells : List (List Char) → List Char → Prop
  | nil {gap : List Char} (hgap : IsGap gap) : Spells [] gap
  | cons {gap word written rest : List Char} {words : List (List Char)} (hgap : IsGap gap)
      (hword : IsPlain word) (hwritten : written = word ∨ written = titled word)
      (hends : EndsWord rest) (hrest : Spells words rest) :
      Spells (word :: words) (gap ++ (written ++ rest))

section Spelling

variable {text word written rest gap : List Char} {words : List (List Char)}

theorem isCapital_eq_false_of_isSmall {c : Char} (h : isSmall c = true) : isCapital c = false := by
  cases hcapital : isCapital c with
  | false => rfl
  | true => exact absurd h (by simp [isSmall_eq_false_of_isCapital hcapital])

theorem IsPlain.exists_cons (hword : IsPlain word) : ∃ first tail, word = first :: tail ∧
    isSmall first = true ∧ (∀ c ∈ tail, isSmall c = true) ∧ tail ≠ [] := by
  obtain ⟨hsmall, hlong⟩ := hword
  cases word with
  | nil => cases hlong
  | cons first tail =>
      obtain ⟨hfirst, htail⟩ := List.forall_mem_cons.mp hsmall
      refine ⟨first, tail, rfl, hfirst, htail, ?_⟩
      rintro rfl
      exact absurd hlong (by simp)

theorem wordLength_of_smalls {capitals smalls : List Char} (hone : capitals.length ≤ 1)
    (hcapitals : ∀ c ∈ capitals, isCapital c = true) (hsmalls : ∀ c ∈ smalls, isSmall c = true)
    (hsome : smalls ≠ []) (hends : EndsWord rest) :
    wordLength (capitals ++ smalls ++ rest) = (capitals ++ smalls).length := by
  obtain ⟨first, tail, rfl⟩ := List.exists_cons_of_ne_nil hsome
  have hfirst := isCapital_eq_false_of_isSmall (hsmalls first (by simp))
  have htake : (capitals ++ first :: tail ++ rest).takeWhile isCapital = capitals := by
    rw [List.append_assoc, List.takeWhile_append_of_pos hcapitals]
    simp [hfirst]
  have hdrop : (capitals ++ first :: tail ++ rest).dropWhile isCapital = first :: tail ++ rest := by
    rw [List.append_assoc, List.dropWhile_append_of_pos hcapitals]
    simp [hfirst]
  have hrest : rest.takeWhile isSmall = [] := by
    cases rest with
    | nil => rfl
    | cons c others => simp [hends c rfl]
  have hword : (first :: tail ++ rest).takeWhile isSmall = first :: tail := by
    rw [List.takeWhile_append_of_pos hsmalls, hrest, List.append_nil]
  simp only [wordLength, htake, hdrop, hword]
  cases capitals with
  | nil => rfl
  | cons capital others =>
      obtain rfl : others = [] := by simpa using hone
      exact Nat.add_comm 1 (first :: tail).length

theorem wordLength_written (hword : IsPlain word)
    (hwritten : written = word ∨ written = titled word) (hends : EndsWord rest) :
    wordLength (written ++ rest) = written.length := by
  obtain ⟨first, tail, rfl, hfirst, htail, hsome⟩ := hword.exists_cons
  rcases hwritten with rfl | rfl
  · have hnone : ([] : List Char).length ≤ 1 := Nat.zero_le 1
    exact wordLength_of_smalls hnone nofun hword.small (by simp) hends
  · have hone : [first.toUpper].length ≤ 1 := Nat.le_refl 1
    exact wordLength_of_smalls hone (by simpa using isCapital_toUpper hfirst) htail hsome hends

theorem capitalised_written (hword : IsPlain word)
    (hwritten : written = word ∨ written = titled word) : capitalised written = titled word := by
  obtain ⟨first, tail, rfl, -, htail, -⟩ := hword.exists_cons
  have hlower : tail.map Char.toLower = tail := by
    have hsame : ∀ c ∈ tail, c.toLower = id c :=
      fun c hc => toLower_of_not_capital (isCapital_eq_false_of_isSmall (htail c hc))
    rw [List.map_congr_left hsame, List.map_id]
  rcases hwritten with rfl | rfl
  · rw [capitalised, hlower, titled]
  · rw [titled, capitalised, hlower, Char.toUpper_toUpper_eq_toUpper]

theorem wordsOf_gap_append (hgap : IsGap gap) (rest : List Char) :
    wordsOf (gap ++ rest) = wordsOf rest := by
  induction gap with
  | nil => rfl
  | cons c gap ih =>
      obtain ⟨hc, hgap⟩ := List.forall_mem_cons.mp hgap
      rw [List.cons_append, wordsOf_cons_of_not_isWordPart hc, ih hgap]

theorem capitalised_wordsOf_of_spells (h : Spells words text) :
    (wordsOf text).map capitalised = words.map titled := by
  induction h with
  | @nil gap hgap =>
      have hnone := wordsOf_gap_append hgap []
      rw [List.append_nil] at hnone
      rw [hnone]
      rfl
  | @cons gap word written rest words hgap hword hwritten hends hrest ih =>
      have hsome : written ≠ [] := by
        obtain ⟨first, tail, rfl, -⟩ := hword.exists_cons
        rcases hwritten with rfl | rfl <;> simp [titled]
      rw [wordsOf_gap_append hgap, wordsOf_append hsome (wordLength_written hword hwritten hends),
        List.map_cons, List.map_cons, ih, capitalised_written hword hwritten]

theorem pascalCase_of_spells {word : List Char} (h : Spells (word :: words) text) :
    pascalCase (String.ofList text) = String.ofList (inPascalCase (word :: words)) := by
  have hjoined : (wordsOf text).flatMap capitalised = inPascalCase (word :: words) := by
    rw [List.flatMap_def, capitalised_wordsOf_of_spells h, ← List.flatMap_def, inPascalCase]
  have hword : IsPlain word := by
    cases h with
    | cons _ hword _ _ _ => exact hword
  obtain ⟨first, tail, rfl, hfirst, -⟩ := hword.exists_cons
  have hdigit : Text.isDecimalDigit first.toUpper = false :=
    isDecimalDigit_eq_false_of_letter (.inl (isCapital_toUpper hfirst))
  rw [pascalCase, String.toList_ofList, hjoined]
  simp [inPascalCase, titled, hdigit]

end Spelling

/-- Words with capitals but for the first one, and nothing between them. -/
def inCamelCase : List (List Char) → List Char
  | [] => []
  | first :: words => first ++ words.flatMap titled

/-- Words in small letters with gaps between them. -/
def separated : List (List Char) → List (List Char) → List Char
  | gap :: gaps, word :: words => word ++ (gap ++ separated gaps words)
  | _, words => words.flatten

section Styles

variable {gap text word : List Char} {gaps words : List (List Char)}

theorem isGap_nil : IsGap [] := fun _ hc => nomatch hc

theorem endsWord_nil : EndsWord [] := fun _ hc => nomatch hc

theorem Spells.gap_append (h : Spells words text) (hgap : IsGap gap) :
    Spells words (gap ++ text) := by
  cases h with
  | nil hrest => exact .nil (List.forall_mem_append.mpr ⟨hgap, hrest⟩)
  | cons hfirst hword hwritten hends hrest =>
      rw [← List.append_assoc]
      exact .cons (List.forall_mem_append.mpr ⟨hgap, hfirst⟩) hword hwritten hends hrest

theorem endsWord_gap_append (hsome : gap ≠ []) (hgap : IsGap gap) (rest : List Char) :
    EndsWord (gap ++ rest) := by
  obtain ⟨first, others, rfl⟩ := List.exists_cons_of_ne_nil hsome
  rintro c ⟨⟩
  cases hsmall : isSmall first with
  | false => rfl
  | true => exact absurd (.inr (.inl hsmall)) (hgap first (by simp))

theorem endsWord_inPascalCase (hwords : ∀ word ∈ words, IsPlain word) :
    EndsWord (inPascalCase words) := by
  cases words with
  | nil => exact endsWord_nil
  | cons word words =>
      obtain ⟨first, tail, rfl, hfirst, -⟩ := (hwords word (by simp)).exists_cons
      rintro c ⟨⟩
      exact isSmall_eq_false_of_isCapital (isCapital_toUpper hfirst)

theorem spells_inPascalCase (hwords : ∀ word ∈ words, IsPlain word) :
    Spells words (inPascalCase words) := by
  induction words with
  | nil => exact .nil isGap_nil
  | cons word words ih =>
      obtain ⟨hword, hwords⟩ := List.forall_mem_cons.mp hwords
      have hspells := Spells.cons isGap_nil hword (.inr rfl) (endsWord_inPascalCase hwords)
        (ih hwords)
      exact hspells

theorem spells_inCamelCase (hwords : ∀ word ∈ words, IsPlain word) :
    Spells words (inCamelCase words) := by
  cases words with
  | nil => exact .nil isGap_nil
  | cons word words =>
      obtain ⟨hword, hwords⟩ := List.forall_mem_cons.mp hwords
      have hspells := Spells.cons isGap_nil hword (.inl rfl) (endsWord_inPascalCase hwords)
        (spells_inPascalCase hwords)
      exact hspells

theorem spells_separated (hlength : gaps.length + 1 = words.length)
    (hgaps : ∀ gap ∈ gaps, gap ≠ [] ∧ IsGap gap) (hwords : ∀ word ∈ words, IsPlain word) :
    Spells words (separated gaps words) := by
  induction gaps generalizing words with
  | nil =>
      obtain ⟨word, rfl⟩ := List.length_eq_one_iff.mp hlength.symm
      have hspells := Spells.cons isGap_nil (hwords word (by simp)) (.inl rfl) endsWord_nil
        (.nil isGap_nil)
      simpa [separated] using hspells
  | cons gap gaps ih =>
      obtain ⟨word, words, rfl⟩ := List.exists_cons_of_length_eq_add_one hlength.symm
      obtain ⟨⟨hsome, hgap⟩, hgaps⟩ := List.forall_mem_cons.mp hgaps
      obtain ⟨hword, hwords⟩ := List.forall_mem_cons.mp hwords
      have hrest := (ih (by simpa using hlength) hgaps hwords).gap_append hgap
      have hspells := Spells.cons isGap_nil hword (.inl rfl)
        (endsWord_gap_append hsome hgap _) hrest
      exact hspells

/-- All spellings of some words give one name: with other characters between the words, in camel
case, and in Pascal case, which is that of the name itself. -/
theorem pascalCase_styles (hsome : words ≠ []) (hwords : ∀ word ∈ words, IsPlain word) :
    (∀ gaps : List (List Char), gaps.length + 1 = words.length →
      (∀ gap ∈ gaps, gap ≠ [] ∧ IsGap gap) →
      pascalCase (String.ofList (separated gaps words)) = String.ofList (inPascalCase words)) ∧
    pascalCase (String.ofList (inCamelCase words)) = String.ofList (inPascalCase words) ∧
    pascalCase (String.ofList (inPascalCase words)) = String.ofList (inPascalCase words) := by
  obtain ⟨word, words, rfl⟩ := List.exists_cons_of_ne_nil hsome
  refine ⟨?_, ?_, ?_⟩
  · intro gaps hlength hgaps
    exact pascalCase_of_spells (spells_separated hlength hgaps hwords)
  · exact pascalCase_of_spells (spells_inCamelCase hwords)
  · exact pascalCase_of_spells (spells_inPascalCase hwords)

theorem pascalCase_styles_petShop :
    pascalCase "pet_shop -app" = "PetShopApp" ∧ pascalCase "petShopApp" = "PetShopApp" ∧
      pascalCase "PetShopApp" = "PetShopApp" := by
  have hwords : ∀ word ∈ [['p', 'e', 't'], ['s', 'h', 'o', 'p'], ['a', 'p', 'p']],
      IsPlain word := by
    decide +kernel
  have hgaps : ∀ gap ∈ [['_'], [' ', '-']], gap ≠ [] ∧ IsGap gap := by decide +kernel
  obtain ⟨hseparated, hcamel, hpascal⟩ := pascalCase_styles (by decide) hwords
  exact ⟨hseparated [['_'], [' ', '-']] rfl hgaps, hcamel, hpascal⟩

end Styles

end ProviderGen
