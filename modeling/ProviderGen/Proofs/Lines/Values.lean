import ProviderGen.Proofs.Lines.Literals

/-!
What string literals stand for: a text, as the list of its code points, since escapes may also give
code points that are no characters. The literal of a text in plain ASCII stands for the UTF-16 units
of that text, which are its characters only where one unit is enough for each of them.
-/

namespace ProviderGen.Source.Literal

/-- The code points that an escape stands for, and how many characters it takes after its
backslash. -/
structure Escape where
  codes : List Nat
  length : Nat

/-- The code point that a letter stands for after a backslash. -/
def controlOf? : Char → Option Nat
  | 'a' => some 0x7
  | 'b' => some 0x8
  | 't' => some 0x9
  | 'n' => some 0xa
  | 'v' => some 0xb
  | 'f' => some 0xc
  | 'r' => some 0xd
  | _ => none

/-- The digits of an octal number, of which an escape has at most three. -/
def octalDigits (text : List Char) : List Char :=
  (text.take 3).takeWhile fun c => '0' ≤ c && c ≤ '7'

/-- An escape by a number of hexadecimal digits, which follow its letter. -/
def numbered? (count : Nat) (rest : List Char) : Option Escape :=
  let code := hexNumber (rest.take count)
  if startsWithHex count rest && code ≤ 0x10ffff then some ⟨[code], count + 1⟩ else none

/-- An escape by the name of a character, which follows its letter in braces. -/
def named? (named : List Char → Option Nat) : List Char → Option Escape
  | '{' :: rest =>
      let name := rest.takeWhile (· != '}')
      if rest.contains '}' then (named name).map fun code => ⟨[code], name.length + 3⟩ else none
  | _ => none

/-- The escape after a backslash; none if it is incomplete. A line feed is left out, and a character
that no escape starts with stays what it is, as does the backslash. -/
def escape? (named : List Char → Option Nat) : List Char → Option Escape
  | [] => none
  | c :: rest =>
      if c = 'x' then numbered? 2 rest
      else if c = 'u' then numbered? 4 rest
      else if c = 'U' then numbered? 8 rest
      else if c = 'N' then named? named rest
      else if c = '\n' then some ⟨[], 1⟩
      else if c = '\\' ∨ c = '\'' ∨ c = '"' then some ⟨[c.toNat], 1⟩
      else
        match controlOf? c, octalDigits (c :: rest) with
        | some code, _ => some ⟨[code], 1⟩
        | none, [] => some ⟨['\\'.toNat, c.toNat], 1⟩
        | none, digits =>
            some ⟨[digits.foldl (fun value d => value * 8 + (d.toNat - '0'.toNat)) 0], digits.length⟩

/-- The code points that a text stands for inside a literal, after a number of characters that have
been read as part of an escape. -/
def codePoints? (named : List Char → Option Nat) : Nat → List Char → Option (List Nat)
  | _, [] => some []
  | read + 1, _ :: rest => codePoints? named read rest
  | 0, c :: rest =>
      if c = '\\' then do
        let escape ← escape? named rest
        return escape.codes ++ (← codePoints? named escape.length rest)
      else do
        return c.toNat :: (← codePoints? named 0 rest)

/-- What a literal stands for, if it is a text with no fields. The characters that have names are a
parameter. -/
def value? (named : List Char → Option Nat) (literal : List Char) : Option (List Nat) :=
  let parts := partsOf ⟨.string, String.ofList literal, 0, 0⟩
  if parts.isBytes || parts.isFormatted then none
  else if parts.isRaw then some (parts.body.map Char.toNat)
  else codePoints? named 0 parts.body

section Reading

variable {named : List Char → Option Nat} {c : Char} {rest : List Char}

theorem codePoints?_read (text rest : List Char) :
    codePoints? named text.length (text ++ rest) = codePoints? named 0 rest := by
  induction text with
  | nil => rfl
  | cons c text ih => exact ih

theorem codePoints?_of_ne (h : c ≠ '\\') :
    codePoints? named 0 (c :: rest) = (codePoints? named 0 rest).map ([c.toNat] ++ ·) := by
  rw [codePoints?, if_neg h]
  cases codePoints? named 0 rest <;> rfl

theorem codePoints?_escape (text : List Char) {codes : List Nat}
    (h : escape? named (text ++ rest) = some ⟨codes, text.length⟩) :
    codePoints? named 0 ('\\' :: text ++ rest) = (codePoints? named 0 rest).map (codes ++ ·) := by
  rw [List.cons_append, codePoints?, if_pos rfl, h]
  change (do return codes ++ (← codePoints? named text.length (text ++ rest))) = _
  rw [codePoints?_read]
  cases codePoints? named 0 rest <;> rfl

end Reading

theorem hexNumber_concat (digits : List Char) (c : Char) :
    hexNumber (digits ++ [c]) = hexNumber digits * 16 + hexValue c := by
  rw [hexNumber, List.foldl_append]
  rfl

theorem hexValue_digitChar : ∀ digit < 16, hexValue (Nat.digitChar digit) = digit := by
  decide

theorem hexNumber_toDigits (n : Nat) : hexNumber (Nat.toDigits 16 n) = n := by
  induction n using Nat.strongRecOn with
  | ind n ih =>
      rw [Nat.toDigits_eq_if (by decide)]
      split
      next hsmall => simp [hexNumber, hexValue_digitChar n hsmall]
      next hbig =>
        rw [hexNumber_concat, ih (n / 16) (by omega), hexValue_digitChar _ (by omega)]
        omega

theorem hexNumber_hexadecimal (width n : Nat) : hexNumber (Text.hexadecimal width n) = n := by
  have hzeros : ∀ count, (List.replicate count '0').foldl
      (fun value c => value * 16 + hexValue c) 0 = 0 := by
    intro count
    induction count with
    | zero => rfl
    | succ count ih => exact ih
  rw [Text.hexadecimal, hexNumber, List.foldl_append, hzeros]
  exact hexNumber_toDigits n

section Ascii

variable {named : List Char → Option Nat} {c : Char}

theorem codePoints?_unit {unit : Nat} (h : unit < 0x10000) (rest : List Char) :
    codePoints? named 0 ('\\' :: 'u' :: Text.hexadecimal 4 unit ++ rest) =
      (codePoints? named 0 rest).map ([unit] ++ ·) := by
  obtain ⟨hlength, hdigits⟩ := hexadecimal_four h
  have htake : (Text.hexadecimal 4 unit ++ rest).take 4 = Text.hexadecimal 4 unit :=
    List.take_left' hlength
  refine codePoints?_escape ('u' :: Text.hexadecimal 4 unit) ?_
  have hstarts : startsWithHex 4 (Text.hexadecimal 4 unit ++ rest) = true := by
    rw [startsWithHex, htake, hlength]
    simpa using hdigits
  have hsmall : unit ≤ 0x10ffff := by omega
  simp [escape?, numbered?, hstarts, htake, hexNumber_hexadecimal, hsmall, hlength]

theorem codePoints?_units {units : List Nat} (h : ∀ unit ∈ units, unit < 0x10000)
    (rest : List Char) :
    codePoints? named 0
        (units.flatMap (fun unit => '\\' :: 'u' :: Text.hexadecimal 4 unit) ++ rest) =
      (codePoints? named 0 rest).map (units ++ ·) := by
  induction units with
  | nil => simp
  | cons unit units ih =>
      obtain ⟨hunit, hunits⟩ := List.forall_mem_cons.mp h
      rw [List.flatMap_cons, List.append_assoc, codePoints?_unit hunit, ih hunits, Option.map_map]
      rfl

theorem units16_of_lt (h : c.toNat < 0x10000) : Text.units16 c = [c.toNat] :=
  if_pos h

theorem codePoints?_literalCharacter (c : Char) (rest : List Char) :
    codePoints? named 0 (Text.literalCharacter c ++ rest) =
      (codePoints? named 0 rest).map (Text.units16 c ++ ·) := by
  have hnumbered : codePoints? named 0 (Text.numbered c ++ rest) =
      (codePoints? named 0 rest).map (Text.units16 c ++ ·) :=
    codePoints?_units (fun unit hunit => lt_of_mem_units16 hunit) rest
  -- A letter after a backslash that stands for the character.
  have hescape : ∀ {letter : Char}, escape? named (letter :: rest) = some ⟨[c.toNat], 1⟩ →
      c.toNat < 0x10000 → codePoints? named 0 (['\\', letter] ++ rest) =
        (codePoints? named 0 rest).map (Text.units16 c ++ ·) := by
    intro letter hletter hc
    rw [units16_of_lt hc]
    exact codePoints?_escape [letter] hletter
  unfold Text.literalCharacter
  split
  · next hquote =>
      simp only [Bool.or_eq_true, beq_iff_eq] at hquote
      rcases hquote with rfl | rfl <;> exact hescape (by simp [escape?]) (by decide)
  next hquote =>
  split
  · next hline =>
      obtain rfl := beq_iff_eq.mp hline
      exact hescape (by simp [escape?, controlOf?]) (by decide)
  split
  · next hreturn =>
      obtain rfl := beq_iff_eq.mp hreturn
      exact hescape (by simp [escape?, controlOf?]) (by decide)
  split
  · next htab =>
      obtain rfl := beq_iff_eq.mp htab
      exact hescape (by simp [escape?, controlOf?]) (by decide)
  split
  · next hfeed =>
      have hfeed := beq_iff_eq.mp hfeed
      exact hescape (by simp [escape?, controlOf?, hfeed]) (by omega)
  split
  · next hback =>
      have hback := beq_iff_eq.mp hback
      exact hescape (by simp [escape?, controlOf?, hback]) (by omega)
  split
  · exact hnumbered
  split
  · next hprinted =>
      simp only [Bool.or_eq_true, beq_iff_eq, not_or] at hquote
      simp only [Bool.and_eq_true, decide_eq_true_eq] at hprinted
      have hc : c.toNat < 0x10000 := Nat.lt_of_le_of_lt hprinted.2 (by decide)
      rw [units16_of_lt hc]
      exact codePoints?_of_ne hquote.2
  · exact hnumbered

theorem codePoints?_flatMap (chars : List Char) :
    codePoints? named 0 (chars.flatMap Text.literalCharacter) =
      some (chars.flatMap Text.units16) := by
  induction chars with
  | nil => rfl
  | cons c chars ih =>
      rw [List.flatMap_cons, codePoints?_literalCharacter, ih, List.flatMap_cons]
      rfl

theorem value?_asciiLiteral (named : List Char → Option Nat) (text : String) :
    value? named (Text.asciiLiteral text).toList = some (text.toList.flatMap Text.units16) := by
  have hinert : Inert (text.toList.flatMap Text.literalCharacter) :=
    Inert.flatMap fun c _ => inert_literalCharacter c
  rw [Text.asciiLiteral, String.toList_ofList, value?, partsOf_quoted hinert.opened]
  exact codePoints?_flatMap _

example : value? (fun _ => none) "'a\\x41\\n\\101\\q'".toList =
    some [0x61, 0x41, 0xa, 0x41, 0x5c, 0x71] := by
  decide

end Ascii

theorem flatMap_units16_eq_iff {chars : List Char} :
    chars.flatMap Text.units16 = chars.map Char.toNat ↔ ∀ c ∈ chars, c.toNat < 0x10000 := by
  induction chars with
  | nil => simp
  | cons c chars ih =>
      rw [List.flatMap_cons, List.map_cons, List.forall_mem_cons, ← ih]
      by_cases hc : c.toNat < 0x10000
      · simp [units16_of_lt hc, hc]
      · have hfirst : ∃ unit units, Text.units16 c = unit :: units := ⟨_, _, if_neg hc⟩
        obtain ⟨unit, units, hunits⟩ := hfirst
        have hlt : unit < 0x10000 := lt_of_mem_units16 (by rw [hunits]; exact List.mem_cons_self ..)
        have hne : unit ≠ c.toNat := by omega
        simp [hunits, hne, hc]

end ProviderGen.Source.Literal
