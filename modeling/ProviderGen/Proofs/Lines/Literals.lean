import ProviderGen.Proofs.Lines.Rows
import ProviderGen.Text.AsciiLiteral

namespace ProviderGen.Source

open Literal (escapesComplete startsWithHex)

/-- A character that means itself between double quotes. -/
def IsPlain (c : Char) : Prop := c ≠ '"' ∧ c ≠ '\\' ∧ c ≠ '\n' ∧ IsKept c

instance (c : Char) : Decidable (IsPlain c) :=
  inferInstanceAs (Decidable (_ ∧ _))

section

variable {size seen count stop : Nat} {c : Char} {text rest : List Char}

theorem stringEnd?_append {quote : Char} (h : stringEnd? quote size seen count text = some stop)
    (rest : List Char) : stringEnd? quote size seen count (text ++ rest) = some stop := by
  fun_induction stringEnd? quote size seen count text with
  | case1 => cases h
  | case2 => cases h
  | case3 seen count c more hline hquote hsize =>
      rw [List.cons_append, stringEnd?.eq_def]
      simpa [hline, hquote, hsize] using h
  | case4 seen count c more hline hquote hsize ih =>
      rw [List.cons_append, stringEnd?.eq_def]
      simpa [hline, hquote, hsize] using ih h
  | case5 => cases h
  | case6 seen count c hline hquote hescape d more ih =>
      rw [List.cons_append, stringEnd?.eq_def]
      simpa [hline, hquote, hescape] using ih h
  | case7 seen count c more hline hquote hescape ih =>
      rw [List.cons_append, stringEnd?.eq_def]
      simpa [hline, hquote, hescape] using ih h

theorem stringEnd?_of_plain (h : IsPlain c) :
    stringEnd? '"' size seen count (c :: rest) = stringEnd? '"' size 0 (count + 1) rest := by
  obtain ⟨hquote, hescape, hline, -⟩ := h
  rw [stringEnd?.eq_def]
  simp [hquote, hescape, hline]

theorem stringEnd?_of_plainText (h : ∀ c ∈ text, IsPlain c) :
    stringEnd? '"' size 0 count (text ++ rest) =
      stringEnd? '"' size 0 (count + text.length) rest := by
  induction text generalizing count with
  | nil => rfl
  | cons first text ih =>
      rw [List.cons_append, stringEnd?_of_plain (h first (by simp)),
        ih fun c hc => h c (List.mem_cons_of_mem first hc), List.length_cons]
      congr 1
      omega

theorem escapesComplete_of_ne [Interpreter] (h : c ≠ '\\') :
    escapesComplete (c :: rest) = escapesComplete rest := by
  rw [escapesComplete]
  all_goals
    intros
    contradiction

theorem escapesComplete_of_plainText [Interpreter] (h : ∀ c ∈ text, IsPlain c) :
    escapesComplete (text ++ rest) = escapesComplete rest := by
  induction text with
  | nil => rfl
  | cons first text ih =>
      rw [List.cons_append, escapesComplete_of_ne (h first (by simp)).2.1,
        ih fun c hc => h c (List.mem_cons_of_mem first hc)]

end

theorem literalShape_of_parts [Interpreter] {text body : List Char}
    (hparts : Literal.partsOf ⟨.string, String.ofList text, 0, 0⟩ = ⟨false, false, false, body⟩) :
    literalShape text = if escapesComplete body then .string else .flawed := by
  simp only [literalShape, shapeOfString, hparts, Bool.or_false, Bool.false_or, Bool.false_eq_true,
    if_false]

/-- Three double quotes in a row, between which a string may span lines. -/
def tripleQuote : List Char := ['"', '"', '"']

/-- A text between three quotes on each side. -/
def tripled (text : List Char) : List Char :=
  tripleQuote ++ text ++ tripleQuote

theorem partsOf_tripled (text : List Char) :
    Literal.partsOf ⟨.string, String.ofList (tripled text), 0, 0⟩ =
      ⟨false, false, false, text⟩ := by
  simp [Literal.partsOf, tripled, tripleQuote]

theorem valid_tripled {text : List Char} (hkept : ∀ c ∈ text, IsKept c)
    (h : stringEnd? '"' 3 0 3 (text ++ tripleQuote) = some (text.length + 6)) :
    Piece.Valid (.literal (tripled text)) := by
  have hquote : IsKept '"' := by decide
  refine ⟨rfl, by simpa [tripled, tripleQuote, or_imp, forall_and, hquote] using hkept, ?_⟩
  intro rest _
  have hend := stringEnd?_append h rest
  simpa [tripled, tripleQuote, stringLength?] using hend

/-- A documentation string: a front and a text, which end with a full stop. -/
def documented (front text : List Char) : List Char :=
  tripled (front ++ text ++ ['.'])

theorem stringEnd?_of_not_tripleQuote (rest : List Char) {text : List Char} {seen : Nat}
    (count : Nat) (hseen : seen < 3) (h : ¬ tripleQuote <:+: List.replicate seen '"' ++ text) :
    stringEnd? '"' 3 seen count (text ++ '.' :: rest) =
      stringEnd? '"' 3 0 (count + text.length + 1) rest := by
  induction hlength : text.length using Nat.strongRecOn generalizing text seen count with
  | ind length ih =>
      subst hlength
      cases text with
      | nil =>
          rw [List.nil_append, stringEnd?.eq_def]
          simp
      | cons c text =>
          -- What follows another character than a quote starts with no quotes found.
          have hfresh : ∀ more : List Char, more <:+ text → ∀ count,
              stringEnd? '"' 3 0 count (more ++ '.' :: rest) =
                stringEnd? '"' 3 0 (count + more.length + 1) rest := by
            intro more hmore count
            have hsuffix : text <:+ List.replicate seen '"' ++ c :: text :=
              (List.suffix_cons c text).trans (List.suffix_append _ _)
            refine ih more.length (Nat.lt_succ_of_le hmore.length_le) count (by decide) ?_ rfl
            exact fun hinner => h (hinner.trans (hmore.trans hsuffix).isInfix)
          rw [List.cons_append, stringEnd?.eq_def, List.length_cons]
          by_cases hquote : c = '"'
          · subst hquote
            have hmore : List.replicate seen '"' ++ '"' :: text =
                List.replicate (seen + 1) '"' ++ text := by
              rw [List.replicate_succ', List.append_assoc, List.singleton_append]
            rw [hmore] at h
            have hlt : seen + 1 < 3 := by
              by_contra hnot
              obtain rfl : seen = 2 := by omega
              exact h (List.prefix_append _ _).isInfix
            have hrest := ih text.length (by simp) (count + 1) hlt h rfl
            simp [hrest, hlt.ne]
            congr 1
            omega
          by_cases hescape : c = '\\'
          · subst hescape
            cases text with
            | nil => simp
            | cons d more =>
                have hrest := hfresh more (List.suffix_cons d more) (count + 2)
                simp [hrest]
                congr 1
                omega
          · have hrest := hfresh text List.suffix_rfl (count + 1)
            simp [hquote, hescape, hrest]
            congr 1
            omega

section Documentation

variable {front text : List Char} (hfront : ∀ c ∈ front, IsPlain c)

include hfront

/-- A documentation string may hold anything but three quotes in a row. -/
theorem valid_documented (hkept : ∀ c ∈ text, IsKept c) (h : ¬ tripleQuote <:+: text) :
    Piece.Valid (.literal (documented front text)) := by
  have hkept' : ∀ c ∈ front ++ text ++ ['.'], IsKept c := by
    have hstop : IsKept '.' := by decide
    have hplain : ∀ c ∈ front, IsKept c := fun c hc => (hfront c hc).2.2.2
    simpa [or_imp, forall_and, hstop] using ⟨hplain, hkept⟩
  refine valid_tripled hkept' ?_
  rw [List.append_assoc, List.append_assoc, stringEnd?_of_plainText hfront, List.append_assoc,
    List.singleton_append, stringEnd?_of_not_tripleQuote _ _ (by decide) (by simpa using h)]
  simp [stringEnd?, tripleQuote]
  omega

theorem literalShape_documented [Interpreter] : literalShape (documented front text) =
    if escapesComplete (text ++ ['.']) then .string else .flawed := by
  rw [documented, literalShape_of_parts (partsOf_tripled _), List.append_assoc,
    escapesComplete_of_plainText hfront]

end Documentation

/-- What stands inside a literal of one quote, neither ends it nor leaves an escape open, whatever the
interpreter. -/
structure Inert (piece : List Char) : Prop where
  ends : ∀ count rest, stringEnd? '"' 1 0 count (piece ++ rest) =
    stringEnd? '"' 1 0 (count + piece.length) rest
  complete : ∀ [Interpreter] rest, escapesComplete (piece ++ rest) = escapesComplete rest
  opened : ∀ c ∈ piece.head?, c ≠ '"'
  kept : ∀ c ∈ piece, IsKept c

namespace Inert

theorem nil : Inert [] :=
  ⟨fun _ _ => rfl, fun _ => rfl, nofun, nofun⟩

theorem append {piece more : List Char} (h : Inert piece) (hmore : Inert more) :
    Inert (piece ++ more) where
  ends count rest := by
    rw [List.append_assoc, h.ends, hmore.ends, List.length_append, Nat.add_assoc]
  complete rest := by rw [List.append_assoc, h.complete, hmore.complete]
  opened := by
    cases piece with
    | nil => exact hmore.opened
    | cons first piece => exact h.opened
  kept c hc := (List.mem_append.mp hc).elim (h.kept c) (hmore.kept c)

theorem flatMap {α : Type} {pieces : α → List Char} {items : List α}
    (h : ∀ item ∈ items, Inert (pieces item)) : Inert (items.flatMap pieces) := by
  induction items with
  | nil => exact nil
  | cons item items ih =>
      rw [List.flatMap_cons]
      exact (h item (by simp)).append
        (ih fun other hother => h other (List.mem_cons_of_mem item hother))

theorem plain {text : List Char} (h : ∀ c ∈ text, IsPlain c) : Inert text where
  ends _ _ := stringEnd?_of_plainText h
  complete _ := escapesComplete_of_plainText h
  opened c hc := (h c (List.mem_of_mem_head? hc)).1
  kept c hc := (h c hc).2.2.2

theorem escape {c : Char} (hc : c ∉ ['x', 'u', 'U', 'N']) (hkept : IsKept c) :
    Inert ['\\', c] where
  ends count rest := by simp [stringEnd?]
  complete rest := by
    simp only [List.mem_cons, List.not_mem_nil, or_false, not_or] at hc
    simp [escapesComplete, hc]
  opened := by simp
  kept := by
    have hescape : IsKept '\\' := by decide
    simpa [hescape] using hkept

theorem isPlain_of_isHexDigit {c : Char} (h : Number.isHexDigit c = true) : IsPlain c := by
  refine ⟨?_, ?_, ?_, ?_, ?_⟩
  all_goals
    rintro rfl
    exact absurd h (by decide)

theorem number {digits : List Char} (hlength : digits.length = 4)
    (hdigits : ∀ c ∈ digits, Number.isHexDigit c = true) : Inert ('\\' :: 'u' :: digits) where
  ends count rest := by
    have hplain : ∀ c ∈ digits, IsPlain c := fun c hc => isPlain_of_isHexDigit (hdigits c hc)
    have hstep : stringEnd? '"' 1 0 count ('\\' :: 'u' :: (digits ++ rest)) =
        stringEnd? '"' 1 0 (count + 2) (digits ++ rest) := by simp [stringEnd?]
    simp only [List.cons_append, hstep, stringEnd?_of_plainText hplain, List.length_cons]
    congr 1
    omega
  complete rest := by
    have hplain : ∀ c ∈ digits, IsPlain c := fun c hc => isPlain_of_isHexDigit (hdigits c hc)
    have hstarts : startsWithHex 4 (digits ++ rest) = true := by
      rw [startsWithHex, ← hlength, List.take_left]
      simpa using hdigits
    simp only [List.cons_append, escapesComplete, hstarts, Bool.true_and,
      escapesComplete_of_plainText hplain]
  opened := by simp
  kept c hc := by
    rcases List.mem_cons.mp hc with rfl | hc
    · decide
    rcases List.mem_cons.mp hc with rfl | hc
    · decide
    · exact (isPlain_of_isHexDigit (hdigits c hc)).2.2.2

end Inert

theorem isHexDigit_digitChar : ∀ digit < 16, Number.isHexDigit (Nat.digitChar digit) = true := by
  decide

theorem isHexDigit_of_mem_toDigits (n : Nat) :
    ∀ c ∈ Nat.toDigits 16 n, Number.isHexDigit c = true := by
  induction n using Nat.strongRecOn with
  | ind n ih =>
      intro c hc
      rw [Nat.toDigits_eq_if (by decide)] at hc
      split at hc
      · next hsmall =>
          obtain rfl := List.mem_singleton.mp hc
          exact isHexDigit_digitChar n hsmall
      · next hbig =>
          rcases List.mem_append.mp hc with hc | hc
          · exact ih (n / 16) (by omega) c hc
          · obtain rfl := List.mem_singleton.mp hc
            exact isHexDigit_digitChar (n % 16) (by omega)

theorem hexadecimal_four {n : Nat} (h : n < 0x10000) : (Text.hexadecimal 4 n).length = 4 ∧
    ∀ c ∈ Text.hexadecimal 4 n, Number.isHexDigit c = true := by
  have hlength : (Nat.toDigits 16 n).length ≤ 4 :=
    (Nat.length_toDigits_le_iff (by decide) (by decide)).mpr h
  refine ⟨by simp [Text.hexadecimal]; omega, ?_⟩
  intro c hc
  rcases List.mem_append.mp hc with hc | hc
  · obtain rfl := (List.mem_replicate.mp hc).2
    decide
  · exact isHexDigit_of_mem_toDigits n c hc

theorem lt_of_mem_units16 {c : Char} {unit : Nat} (h : unit ∈ Text.units16 c) : unit < 0x10000 := by
  have hchar : c.toNat < 0x110000 := by
    have hvalid : c.toNat < 0xd800 ∨ 0xdfff < c.toNat ∧ c.toNat < 0x110000 := c.valid
    omega
  unfold Text.units16 at h
  split at h
  · simp at h
    omega
  · simp at h
    omega

theorem inert_literalCharacter (c : Char) : Inert (Text.literalCharacter c) := by
  have hnumbered : Inert (Text.numbered c) := by
    refine Inert.flatMap fun unit hunit => ?_
    obtain ⟨hlength, hdigits⟩ := hexadecimal_four (lt_of_mem_units16 hunit)
    exact Inert.number hlength hdigits
  unfold Text.literalCharacter
  split
  · next hescape =>
      simp only [Bool.or_eq_true, beq_iff_eq] at hescape
      rcases hescape with rfl | rfl <;> exact Inert.escape (by decide) (by decide)
  next hescape =>
  split
  · exact Inert.escape (by decide) (by decide)
  next hline =>
  split
  · exact Inert.escape (by decide) (by decide)
  next hreturn =>
  iterate 3
    split
    · exact Inert.escape (by decide) (by decide)
  split
  · exact hnumbered
  split
  · next hprinted =>
      refine Inert.plain fun d hd => ?_
      obtain rfl := List.mem_singleton.mp hd
      simp only [Bool.or_eq_true, beq_iff_eq, not_or] at hescape hline hreturn
      refine ⟨hescape.1, hescape.2, hline, hreturn, ?_⟩
      rintro rfl
      exact absurd hprinted (by decide)
  · exact hnumbered

theorem literalCharacter_ne_nil (c : Char) : Text.literalCharacter c ≠ [] := by
  have hnumbered : Text.numbered c ≠ [] := by
    have hunits : Text.units16 c ≠ [] := by
      unfold Text.units16
      split <;> exact List.cons_ne_nil _ _
    obtain ⟨unit, others, heq⟩ := List.exists_cons_of_ne_nil hunits
    rw [Text.numbered, heq, List.flatMap_cons]
    exact List.cons_ne_nil _ _
  unfold Text.literalCharacter
  repeat' split
  all_goals first | exact hnumbered | exact List.cons_ne_nil _ _

theorem partsOf_quoted {inner : List Char} (h : ∀ c ∈ inner.head?, c ≠ '"') :
    Literal.partsOf ⟨.string, String.ofList ('"' :: inner ++ ['"']), 0, 0⟩ =
      ⟨false, false, false, inner⟩ := by
  cases inner with
  | nil => simp [Literal.partsOf]
  | cons first others =>
      have hfirst : first ≠ '"' := h first rfl
      cases others with
      | nil => simp [Literal.partsOf]
      | cons second others => simp [Literal.partsOf, hfirst]

section Quoted

variable {inner : List Char} (hinert : Inert inner)

include hinert

theorem valid_quoted (hinner : inner ≠ []) : Piece.Valid (.literal ('"' :: inner ++ ['"'])) := by
  have hquote : IsKept '"' := by decide
  refine ⟨rfl, by simpa [or_imp, forall_and, hquote] using hinert.kept, fun rest _ => ?_⟩
  obtain ⟨first, others, rfl⟩ := List.exists_cons_of_ne_nil hinner
  have hfirst : first ≠ '"' := hinert.opened first rfl
  have hend : stringEnd? '"' 1 0 1 (first :: others ++ '"' :: rest) =
      some (1 + (first :: others).length + 1) := by
    rw [hinert.ends, stringEnd?.eq_def]
    simp
  have hlength : stringLength? ('"' :: (first :: others ++ '"' :: rest)) =
      stringEnd? '"' 1 0 1 (first :: others ++ '"' :: rest) := by
    cases others with
    | nil => simp [stringLength?, hfirst]
    | cons second others => simp [stringLength?, hfirst]
  have hsplit : '"' :: (first :: others) ++ ['"'] ++ rest =
      '"' :: (first :: others ++ '"' :: rest) := by simp
  rw [hsplit, hlength, hend]
  simp
  omega

theorem literalShape_quoted [Interpreter] : literalShape ('"' :: inner ++ ['"']) = .string := by
  have hcomplete : escapesComplete inner = true := by
    have hall := hinert.complete []
    rwa [List.append_nil] at hall
  rw [literalShape_of_parts (partsOf_quoted hinert.opened), if_pos hcomplete]

end Quoted

theorem inert_literalCharacters (text : List Char) :
    Inert (text.flatMap Text.literalCharacter) :=
  Inert.flatMap fun c _ => inert_literalCharacter c

theorem literalShape_asciiLiteral [Interpreter] (text : String) :
    literalShape (Text.asciiLiteral text).toList = .string := by
  rw [Text.asciiLiteral, String.toList_ofList]
  exact literalShape_quoted (inert_literalCharacters text.toList)

theorem valid_asciiLiteral {text : String} (h : text ≠ "") :
    Piece.Valid (.literal (Text.asciiLiteral text).toList) := by
  have hinner : text.toList.flatMap Text.literalCharacter ≠ [] := by
    intro hnil
    have hall : ∀ c ∈ text.toList, Text.literalCharacter c = [] := List.flatMap_eq_nil_iff.mp hnil
    cases htext : text.toList with
    | nil => exact h (String.toList_eq_nil_iff.mp htext)
    | cons first others => exact literalCharacter_ne_nil first (hall first (by simp [htext]))
  rw [Text.asciiLiteral, String.toList_ofList]
  exact valid_quoted (inert_literalCharacters text.toList) hinner

end ProviderGen.Source
