import ProviderGen.Proofs.Lines.Reading

namespace ProviderGen.Source

open Source.Number (goesOnInName)

/-- A character that is kept as it is when a text is parsed, and does not stop it. -/
def IsKept (c : Char) : Prop := c ≠ '\r' ∧ c ≠ '\x00'

instance (c : Char) : Decidable (IsKept c) :=
  inferInstanceAs (Decidable (_ ∧ _))

theorem forall_of_all {p : Char → Prop} [DecidablePred p] {text : List Char}
    (h : text.all (fun c => decide (p c)) = true) : ∀ c ∈ text, p c := by
  simpa using h

/-- A piece of a line. -/
inductive Piece
  | blank
  | word (text : String)
  | sign (text : String)
  | literal (text : List Char)

/-- The signs of one character that may stand in a line. -/
def plainSigns : List Char := [':', ',', '.', '@', '=']

/-- The brackets that are open after a sign; none where the sign cannot stand. -/
def bracketsAfter (opened : List Char) (c : Char) : Option (List Char) :=
  if c == '(' || c == '[' || c == '\x7b' then
    if opened.length < maxBrackets then some (c :: opened) else none
  else if c == ')' || c == ']' || c == '\x7d' then
    match opened with
    | [] => none
    | last :: others => if closing last = c then some others else none
  else if plainSigns.contains c then some opened
  else none

def literalShape [Interpreter] (text : List Char) : Shape :=
  shapeOfString ⟨.string, String.ofList text, 0, 0⟩

namespace Piece

def chars : Piece → List Char
  | blank => [' ']
  | word text => text.toList
  | sign text => text.toList
  | literal text => text

def shapes [Interpreter] : Piece → List Shape
  | blank => []
  | word text => [wordShape text]
  | sign text => [.word text]
  | literal text => [literalShape text]

/-- The brackets that are open after a sign. An arrow is the one sign of two characters. -/
def signBrackets? (opened text : List Char) : Option (List Char) :=
  if text = ['-', '>'] then some opened
  else
    match text with
    | [c] => bracketsAfter opened c
    | _ => none

/-- The brackets that are open after a piece; none where the piece cannot stand. -/
def brackets? (opened : List Char) : Piece → Option (List Char)
  | sign text => signBrackets? opened text.toList
  | _ => some opened

/-- Characters that make one sign with some sign in front of them. -/
def joining : List Char := ['=', '*', '>', '<', '/', '.']

/-- A piece ends where a character follows. -/
def endsAt (c : Char) : Piece → Bool
  | blank => true
  | word _ => !goesOnInName c && c != '"' && c != '\''
  | sign _ => !joining.contains c && !c.isDigit
  | literal _ => c != '"'

def EndsBefore (rest : List Char) (piece : Piece) : Prop :=
  ∀ c ∈ rest.head?, piece.endsAt c = true

/-- A piece ends before another one. -/
def adjoins (piece : Piece) : Piece → Bool
  | blank => piece.endsAt ' '
  | word _ =>
      match piece with
      | blank => true
      | sign _ => true
      | _ => false
  | sign text => text.toList.head?.any piece.endsAt
  | literal _ => piece.endsAt '"'

/-- A piece is what it is meant to be. -/
def Valid : Piece → Prop
  | blank => True
  | word text => Text.isIdentifier text.toList
  | sign _ => True
  | literal text => text.head? = some '"' ∧ (∀ c ∈ text, IsKept c) ∧
      ∀ rest : List Char, (∀ c ∈ rest.head?, c ≠ '"') →
        stringLength? (text ++ rest) = some text.length

end Piece

theorem goesOnInName_of_start {c : Char} (h : Text.isIdentifierStart c = true) :
    goesOnInName c = true := by
  unfold Text.isIdentifierStart at h
  unfold goesOnInName
  split at h
  · simp only [Bool.or_eq_true] at h ⊢
    rcases h with h | h
    · exact .inl (.inl (by simp [Char.isAlphanum, h]))
    · exact .inl (.inr h)
  · next hascii =>
      simp only [Bool.or_eq_true, decide_eq_true_eq]
      exact .inr (by omega)

theorem goesOnInName_of_part {c : Char} (h : Text.isIdentifierPart c = true) :
    goesOnInName c = true := by
  unfold Text.isIdentifierPart at h
  unfold goesOnInName
  split at h
  · simp only [Bool.or_eq_true] at h ⊢
    exact .inl h
  · next hascii =>
      simp only [Bool.or_eq_true, decide_eq_true_eq]
      exact .inr (by omega)

theorem isDigit_of_start {c : Char} (h : Text.isIdentifierStart c = true) :
    c.isDigit = false := by
  by_contra hdigit
  have hbounds : 48 ≤ c.toNat ∧ c.toNat ≤ 57 := by
    simpa [Char.isDigit, UInt32.le_iff_toNat_le] using hdigit
  have hascii : c.toNat < 0x80 := by omega
  have hother : c ≠ '_' := by
    rintro rfl
    exact absurd hbounds.2 (by decide)
  have halpha : c.isAlpha = (decide ('A'.val ≤ c.val ∧ c.val ≤ 'Z'.val) ||
      (decide ('a'.val ≤ c.val) && decide (c.val ≤ 'z'.val))) := rfl
  simp only [Text.isIdentifierStart, hascii, if_true, hother, beq_iff_eq, Bool.or_eq_true, or_false,
    halpha, Bool.and_eq_true, decide_eq_true_eq, UInt32.le_iff_toNat_le] at h
  have hbig : 'A'.val.toNat = 65 := rfl
  have hsmall : 'a'.val.toNat = 97 := rfl
  simp only [Char.toNat] at hbounds
  omega

theorem exists_of_isIdentifier {text : List Char} (h : Text.isIdentifier text = true) :
    ∃ first others, text = first :: others ∧ Text.isIdentifierStart first = true ∧
      ∀ c ∈ text, goesOnInName c = true := by
  cases text with
  | nil => cases h
  | cons first others =>
      simp only [Text.isIdentifier, Bool.and_eq_true, List.all_eq_true] at h
      refine ⟨first, others, rfl, h.1, ?_⟩
      intro c hc
      rcases List.mem_cons.mp hc with rfl | hc
      · exact goesOnInName_of_start h.1
      · exact goesOnInName_of_part (h.2 c hc)

theorem drop_length_takeWhile (p : Char → Bool) (text : List Char) :
    text.drop (text.takeWhile p).length = text.dropWhile p := by
  have hdrop : (text.takeWhile p ++ text.dropWhile p).drop (text.takeWhile p).length =
      text.dropWhile p := List.drop_left
  rwa [List.takeWhile_append_dropWhile] at hdrop

theorem ne_quote_of_name {c : Char} (h : goesOnInName c = true) : c ≠ '"' ∧ c ≠ '\'' := by
  constructor
  · rintro rfl
    exact absurd h (by decide)
  · rintro rfl
    exact absurd h (by decide)

section

variable {text rest : List Char} (htext : ∀ c ∈ text, goesOnInName c = true)
  (hrest : ∀ c ∈ rest.head?, goesOnInName c = false ∧ c ≠ '"' ∧ c ≠ '\'')

include htext hrest

theorem ne_quote_of_dropWhile :
    ∀ c ∈ ((text ++ rest).dropWhile Char.isAlpha).head?, c ≠ '"' ∧ c ≠ '\'' := by
  induction text with
  | nil =>
      intro c hc
      cases rest with
      | nil => cases hc
      | cons first others =>
          obtain ⟨hname, hquote⟩ := hrest first rfl
          have halpha : first.isAlpha = false := by
            simp only [goesOnInName, Bool.or_eq_false_iff, Char.isAlphanum] at hname
            exact hname.1.1.1
          rw [List.nil_append, List.dropWhile_cons_of_neg (by simp [halpha])] at hc
          obtain rfl : first = c := by simpa using hc
          exact hquote
  | cons first others ih =>
      intro c hc
      rw [List.cons_append] at hc
      by_cases halpha : first.isAlpha = true
      · rw [List.dropWhile_cons_of_pos halpha] at hc
        exact ih (fun c hc => htext c (List.mem_cons_of_mem first hc)) c hc
      · rw [List.dropWhile_cons_of_neg halpha] at hc
        obtain rfl : first = c := by simpa using hc
        exact ne_quote_of_name (htext first (by simp))

theorem stringMarkLength?_of_name : stringMarkLength? (text ++ rest) = none := by
  have hafter := ne_quote_of_dropWhile htext hrest
  simp only [stringMarkLength?, drop_length_takeWhile]
  cases hhead : ((text ++ rest).dropWhile Char.isAlpha).head? with
  | none => rfl
  | some c =>
      obtain ⟨hdouble, hsingle⟩ := hafter c hhead
      simp [hdouble, hsingle]

theorem takeWhile_name : (text ++ rest).takeWhile goesOnInName = text := by
  rw [List.takeWhile_append_of_pos htext]
  cases rest with
  | nil => simp
  | cons first others => simp [(hrest first rfl).1]

end

theorem exists_takeToken (kind : TokenKind) (text rest : List Char) (line : Nat)
    (within : List (Char × Nat)) (indents : List (Nat × Nat)) :
    ∃ token line', Lexer.takeToken ⟨text ++ rest, line, within, indents⟩ kind text.length =
      (token, ⟨rest, line', within, indents⟩) ∧ token.kind = kind ∧
      token.text = String.ofList text := by
  simp only [Lexer.takeToken, List.take_left, List.drop_left]
  exact ⟨_, _, rfl, rfl, rfl⟩

namespace Reads

variable [Interpreter] {rest : List Char} {brackets : List Char} {indents : List (Nat × Nat)}

theorem word {text : String} (hvalid : Piece.Valid (.word text))
    (hends : Piece.EndsBefore rest (.word text)) :
    Reads [wordShape text] ⟨false, text.toList ++ rest, brackets, indents⟩
      ⟨false, rest, brackets, indents⟩ := by
  have hends : ∀ c ∈ rest.head?, goesOnInName c = false ∧ c ≠ '"' ∧ c ≠ '\'' := by
    simpa [Piece.EndsBefore, Piece.endsAt, and_assoc] using hends
  obtain ⟨first, others, htext, hstart, hname⟩ := exists_of_isIdentifier hvalid
  have hmark := stringMarkLength?_of_name hname hends
  have hword := takeWhile_name hname hends
  have hfirst : goesOnInName first = true := goesOnInName_of_start hstart
  have hne : ∀ {c : Char}, Text.isIdentifierStart c = false → first ≠ c := by
    rintro c hc rfl
    rw [hstart] at hc
    cases hc
  have hdigit := isDigit_of_start hstart
  have hidentifier : Text.isIdentifier (first :: others) = true := htext ▸ hvalid
  have hback : String.ofList (first :: others) = text := by rw [← htext, String.ofList_toList]
  rw [htext, List.cons_append] at hmark hword ⊢
  refine Reads.token ?_ ⟨hne (by decide), hne (by decide), hne (by decide)⟩
    (by simp only [List.length_cons, List.length_append]; omega)
    fun line within hwithin => ?_
  · simp [isLineBlank, hne (by decide : Text.isIdentifierStart ' ' = false),
      hne (by decide : Text.isIdentifierStart '\t' = false),
      hne (by decide : Text.isIdentifierStart '\x0c' = false)]
  · have htake : Lexer.takeNext ⟨first :: (others ++ rest), line, within, indents⟩ =
        Lexer.takeWord ⟨first :: (others ++ rest), line, within, indents⟩ := by
      simp [Lexer.takeNext, hmark, hdigit, hfirst,
        hne (by decide : Text.isIdentifierStart '.' = false)]
    rw [htake]
    obtain ⟨token, line', htoken, hkind, htext'⟩ := exists_takeToken
      (if Text.reservedWords.contains text then .keyword else .name) (first :: others) rest line
      within indents
    refine ⟨token, line', within, ?_, ?_, hwithin⟩
    · simp only [Lexer.takeWord, hword, hidentifier, Bool.or_true, if_true, hback]
      exact congrArg Except.ok htoken
    · rw [hback] at htext'
      rw [shapeOf, hkind, htext', wordShape]
      by_cases hreserved : Text.reservedWords.contains text = true <;> simp only [hreserved] <;> rfl

end Reads

/-- The signs that may stand in a line. -/
def signs : List Char := ['(', '[', '\x7b', ')', ']', '\x7d'] ++ plainSigns

theorem mem_signs {opened opened' : List Char} {c : Char}
    (h : bracketsAfter opened c = some opened') : c ∈ signs := by
  unfold bracketsAfter at h
  split at h
  · next hopens =>
      simp only [Bool.or_eq_true, beq_iff_eq] at hopens
      rcases hopens with (rfl | rfl) | rfl <;> decide
  · split at h
    · next hcloses =>
        simp only [Bool.or_eq_true, beq_iff_eq] at hcloses
        rcases hcloses with (rfl | rfl) | rfl <;> decide
    · split at h
      · next hplain =>
          exact List.mem_append_right _ (by simpa using hplain)
      · cases h

theorem exists_of_signBrackets? {opened opened' text : List Char}
    (h : Piece.signBrackets? opened text = some opened') :
    (∃ c, text = [c] ∧ bracketsAfter opened c = some opened') ∨
      text = ['-', '>'] ∧ opened' = opened := by
  unfold Piece.signBrackets? at h
  split at h
  · next harrow => exact .inr ⟨harrow, (Option.some.inj h).symm⟩
  · split at h
    · exact .inl ⟨_, rfl, h⟩
    · cases h

theorem not_special_of_sign : ∀ c ∈ signs, isLineBlank c = false ∧ c ≠ '#' ∧ c ≠ '\n' ∧ c ≠ '\\' ∧
    c ≠ '"' ∧ c ≠ '\'' ∧ c.isAlpha = false ∧ c.isDigit = false ∧ goesOnInName c = false ∧
    Text.isPrintable c = true :=
  forall_of_all (by decide)

theorem operatorLength_of_sign {c : Char} {rest : List Char}
    (hrest : ∀ d ∈ rest.head?, d ∉ Piece.joining) : operatorLength (c :: rest) = 1 := by
  have hlong : ∀ (operators : List String) (count : Nat), 2 ≤ count →
      operators.all (fun operator => operator.toList[1]?.any Piece.joining.contains) = true →
      operators.contains (String.ofList ((c :: rest).take count)) = false := by
    intro operators count hcount hoperators
    rw [List.contains_eq_mem, decide_eq_false_iff_not]
    intro hmem
    obtain ⟨d, hsecond, hd⟩ := (Option.any_eq_true ..).mp (List.all_eq_true.mp hoperators _ hmem)
    rw [String.toList_ofList, List.getElem?_take_of_lt (by omega), List.getElem?_cons_succ,
      ← List.head?_eq_getElem?] at hsecond
    exact hrest d hsecond (List.contains_iff_mem.mp hd)
  simp only [operatorLength, hlong threeCharacterOperators 3 (by decide) (by decide),
    hlong twoCharacterOperators 2 (by decide) (by decide), Bool.false_eq_true, if_false]

theorem stringMarkLength?_of_sign {c : Char} (hc : c ∈ signs) (rest : List Char) :
    stringMarkLength? (c :: rest) = none := by
  obtain ⟨-, -, -, -, hdouble, hsingle, halpha, -⟩ := not_special_of_sign c hc
  simp [stringMarkLength?, halpha, hdouble, hsingle]

theorem takeNext_of_sign {c : Char} {rest : List Char} (hc : c ∈ signs)
    (hrest : ∀ d ∈ rest.head?, d.isDigit = false) (line : Nat) (within : List (Char × Nat))
    (indents : List (Nat × Nat)) :
    Lexer.takeNext ⟨c :: rest, line, within, indents⟩ =
      Lexer.takeOperator ⟨c :: rest, line, within, indents⟩ := by
  obtain ⟨-, -, -, -, -, -, -, hdigit, hname, -⟩ := not_special_of_sign c hc
  have hnumber : (c == '.' && rest.head?.any Char.isDigit) = false := by
    cases hhead : rest.head? with
    | none => simp
    | some d => simp [hrest d hhead]
  simp only [Lexer.takeNext, stringMarkLength?_of_sign hc, hdigit, hnumber, hname, Bool.or_false,
    Bool.false_eq_true, if_false]

namespace Reads

variable [Interpreter] {rest : List Char} {brackets brackets' : List Char}
  {indents : List (Nat × Nat)}

theorem sign {c : Char} (hbrackets : bracketsAfter brackets c = some brackets')
    (hrest : ∀ d ∈ rest.head?, d ∉ Piece.joining ∧ d.isDigit = false) :
    Reads [.word (String.ofList [c])] ⟨false, c :: rest, brackets, indents⟩
      ⟨false, rest, brackets', indents⟩ := by
  have hc := mem_signs hbrackets
  obtain ⟨hblank, hcomment, hline, hjoin, -, -, -, -, -, hprintable⟩ := not_special_of_sign c hc
  refine Reads.token hblank ⟨hcomment, hline, hjoin⟩ (by simp) fun line within hwithin => ?_
  rw [takeNext_of_sign hc fun d hd => (hrest d hd).2]
  have hlength := operatorLength_of_sign (c := c) fun d hd => (hrest d hd).1
  have htaken : ∀ within' : List (Char × Nat), within'.map (·.1) = brackets' →
      ∃ token line', Lexer.takeToken ⟨c :: rest, line, within', indents⟩ .operator 1 =
        (token, ⟨rest, line', within', indents⟩) ∧ shapeOf token = .word (String.ofList [c]) ∧
          within'.map (·.1) = brackets' := by
    intro within' hwithin'
    obtain ⟨token, line', htoken, hkind, htext⟩ :=
      exists_takeToken .operator [c] rest line within' indents
    exact ⟨token, line', htoken, by rw [shapeOf, hkind, htext], hwithin'⟩
  have hsize : within.length = brackets.length := by rw [← hwithin, List.length_map]
  unfold bracketsAfter at hbrackets
  simp only [Lexer.takeOperator]
  split at hbrackets
  · next hopens =>
      split at hbrackets
      · next hfew =>
          obtain rfl := Option.some.inj hbrackets
          obtain ⟨token, line', htoken, hshape, hmap⟩ :=
            htaken ((c, line) :: within) (by rw [List.map_cons, hwithin])
          refine ⟨token, line', _, ?_, hshape, hmap⟩
          simp only [hopens, if_true, hsize, hfew]
          exact congrArg Except.ok htoken
      · cases hbrackets
  · next hopens =>
      split at hbrackets
      · next hcloses =>
          split at hbrackets
          · cases hbrackets
          next last others =>
          split at hbrackets
          · next hmatches =>
              obtain rfl := Option.some.inj hbrackets
              cases within with
              | nil => cases hwithin
              | cons first within =>
                  obtain ⟨rfl, hothers⟩ := List.cons.inj hwithin
                  obtain ⟨token, line', htoken, hshape, hmap⟩ := htaken within hothers
                  refine ⟨token, line', _, ?_, hshape, hmap⟩
                  simp only [hopens, hcloses, if_true, hmatches]
                  exact congrArg Except.ok htoken
          · cases hbrackets
      · next hcloses =>
          split at hbrackets
          · obtain rfl := Option.some.inj hbrackets
            obtain ⟨token, line', htoken, hshape, hmap⟩ := htaken within hwithin
            refine ⟨token, line', _, ?_, hshape, hmap⟩
            simp only [hopens, hcloses, hlength, hprintable]
            exact congrArg Except.ok htoken
          · cases hbrackets

theorem arrow :
    Reads [.word "->"] ⟨false, '-' :: '>' :: rest, brackets, indents⟩
      ⟨false, rest, brackets, indents⟩ := by
  refine Reads.token rfl (by decide) (by simp only [List.length_cons]; omega)
    fun line within hwithin => ?_
  obtain ⟨token, line', htoken, hkind, htext⟩ :=
    exists_takeToken .operator ['-', '>'] rest line within indents
  refine ⟨token, line', within, ?_, by rw [shapeOf, hkind, htext], hwithin⟩
  have hthree : threeCharacterOperators.contains
      (String.ofList (('-' :: '>' :: rest).take 3)) = false := by
    have hfirst : ∀ operator ∈ threeCharacterOperators, operator.toList.head? ≠ some '-' := by
      decide
    rw [List.contains_eq_mem, decide_eq_false_iff_not]
    exact fun hmem => hfirst _ hmem (by simp)
  have hlength : operatorLength ('-' :: '>' :: rest) = 2 := by
    simp only [operatorLength, hthree]
    rfl
  have hmark : stringMarkLength? ('-' :: '>' :: rest) = none := rfl
  have hdigit : ('-'.isDigit || ('-' == '.' && ('>' :: rest).head?.any Char.isDigit)) = false := rfl
  have hname : goesOnInName '-' = false := by decide
  simp only [Lexer.takeNext, hmark, hdigit, hname, Bool.false_eq_true, if_false, Lexer.takeOperator,
    hlength]
  exact congrArg Except.ok htoken

theorem literal {text : List Char} (hvalid : Piece.Valid (.literal text))
    (hends : Piece.EndsBefore rest (.literal text)) :
    Reads [literalShape text] ⟨false, text ++ rest, brackets, indents⟩
      ⟨false, rest, brackets, indents⟩ := by
  obtain ⟨hquote, -, hlength⟩ := hvalid
  obtain ⟨inner, rfl⟩ : ∃ inner, text = '"' :: inner := by
    cases text with
    | nil => cases hquote
    | cons first inner =>
        obtain rfl := Option.some.inj hquote
        exact ⟨inner, rfl⟩
  have hlength := hlength rest (by simpa [Piece.EndsBefore, Piece.endsAt] using hends)
  rw [List.cons_append] at hlength ⊢
  refine Reads.token rfl (by decide) (by simp only [List.length_cons, List.length_append]; omega)
    fun line within hwithin => ?_
  obtain ⟨token, line', htoken, hkind, htext⟩ :=
    exists_takeToken .string ('"' :: inner) rest line within indents
  refine ⟨token, line', within, ?_, ?_, hwithin⟩
  · have hmark : stringMarkLength? ('"' :: (inner ++ rest)) = some 0 := rfl
    simp only [Lexer.takeNext, hmark, List.drop_zero, hlength, Nat.zero_add]
    exact congrArg Except.ok htoken
  · have hparts : Literal.partsOf token =
        Literal.partsOf ⟨.string, String.ofList ('"' :: inner), 0, 0⟩ := by
      unfold Literal.partsOf
      rw [htext]
    rw [shapeOf_of_kind_eq_string hkind, literalShape, shapeOfString, hparts]
    rfl

theorem piece {piece : Piece} (hvalid : piece.Valid) (hends : piece.EndsBefore rest)
    (hbrackets : piece.brackets? brackets = some brackets') :
    Reads piece.shapes ⟨false, piece.chars ++ rest, brackets, indents⟩
      ⟨false, rest, brackets', indents⟩ := by
  cases piece with
  | blank =>
      obtain rfl := Option.some.inj hbrackets
      exact Reads.blank
  | word text =>
      obtain rfl := Option.some.inj hbrackets
      exact Reads.word hvalid hends
  | literal text =>
      obtain rfl := Option.some.inj hbrackets
      exact Reads.literal hvalid hends
  | sign text =>
      simp only [Piece.shapes, Piece.chars]
      rcases exists_of_signBrackets? hbrackets with ⟨c, htext, hafter⟩ | ⟨htext, rfl⟩
      · have hends : ∀ d ∈ rest.head?, d ∉ Piece.joining ∧ d.isDigit = false := by
          simpa [Piece.EndsBefore, Piece.endsAt] using hends
        have hback : String.ofList [c] = text := by rw [← htext, String.ofList_toList]
        rw [htext, ← hback]
        exact Reads.sign hafter hends
      · have hback : String.ofList ['-', '>'] = text := by rw [← htext, String.ofList_toList]
        rw [htext, ← hback]
        exact Reads.arrow

end Reads

/-- The text of pieces in a row. -/
def charsOf (pieces : List Piece) : List Char :=
  pieces.flatMap Piece.chars

/-- The shapes of the tokens of pieces in a row. -/
def shapesOf [Interpreter] (pieces : List Piece) : List Shape :=
  pieces.flatMap Piece.shapes

/-- No piece runs into the next one. -/
def spaced : List Piece → Bool
  | first :: second :: rest => first.adjoins second && spaced (second :: rest)
  | _ => true

theorem endsBefore_of_adjoins {first second : Piece} (h : first.adjoins second = true)
    (hvalid : second.Valid) (rest : List Char) : first.EndsBefore (second.chars ++ rest) := by
  intro c hc
  cases second with
  | blank =>
      obtain rfl : ' ' = c := by simpa [Piece.chars] using hc
      exact h
  | word text =>
      obtain ⟨head, others, htext, hstart, -⟩ := exists_of_isIdentifier hvalid
      obtain rfl : head = c := by simpa [Piece.chars, htext] using hc
      cases first with
      | blank => rfl
      | sign sign =>
          have hjoining : head ∉ Piece.joining := by
            intro hmem
            have hnone : ∀ d ∈ Piece.joining, Text.isIdentifierStart d = false :=
              forall_of_all (by decide)
            rw [hnone head hmem] at hstart
            cases hstart
          simp [Piece.endsAt, hjoining, isDigit_of_start hstart]
      | _ => cases h
  | sign text =>
      simp only [Piece.adjoins, Option.any_eq_true] at h
      obtain ⟨head, hhead, hends⟩ := h
      obtain rfl : head = c := by
        rw [Piece.chars, List.head?_append, hhead] at hc
        exact Option.some.inj hc
      exact hends
  | literal text =>
      obtain rfl : '"' = c := by
        rw [Piece.chars, List.head?_append, hvalid.1] at hc
        exact Option.some.inj hc
      exact h

theorem Reads.row [Interpreter] {rest : List Char} {brackets' : List Char}
    {indents : List (Nat × Nat)} :
    ∀ {pieces : List Piece} {brackets : List Char}, (∀ piece ∈ pieces, piece.Valid) →
      spaced pieces = true → (∀ last ∈ pieces.getLast?, last.EndsBefore rest) →
      pieces.foldlM Piece.brackets? brackets = some brackets' →
      Reads (shapesOf pieces) ⟨false, charsOf pieces ++ rest, brackets, indents⟩
        ⟨false, rest, brackets', indents⟩ := by
  intro pieces
  induction pieces with
  | nil =>
      intro brackets _ _ _ hbrackets
      obtain rfl := Option.some.inj hbrackets
      exact Reads.refl _
  | cons first pieces ih =>
      intro brackets hvalid hspaced hlast hbrackets
      rw [List.foldlM_cons] at hbrackets
      obtain ⟨between, hfirst, hothers⟩ := Option.bind_eq_some_iff.mp hbrackets
      have hvalid' : ∀ piece ∈ pieces, piece.Valid := fun piece hpiece =>
        hvalid piece (List.mem_cons_of_mem first hpiece)
      have hends : first.EndsBefore (charsOf pieces ++ rest) := by
        cases pieces with
        | nil => exact hlast first rfl
        | cons second pieces =>
            have hadjoins := (Bool.and_eq_true_iff.mp hspaced).1
            have hends := endsBefore_of_adjoins hadjoins (hvalid' second (by simp))
              (charsOf pieces ++ rest)
            rwa [← List.append_assoc] at hends
      have hspaced' : spaced pieces = true := by
        cases pieces with
        | nil => rfl
        | cons second pieces => exact (Bool.and_eq_true_iff.mp hspaced).2
      have hlast' : ∀ last ∈ pieces.getLast?, last.EndsBefore rest := by
        cases pieces with
        | nil => exact nofun
        | cons second pieces => exact hlast
      have hpiece : Reads first.shapes
          ⟨false, first.chars ++ (charsOf pieces ++ rest), brackets, indents⟩
          ⟨false, charsOf pieces ++ rest, between, indents⟩ :=
        Reads.piece (hvalid first (by simp)) hends hfirst
      have hread := hpiece.trans (ih hvalid' hspaced' hlast' hothers)
      rwa [← List.append_assoc] at hread

end ProviderGen.Source
