import ProviderGen.Number.Decimal
import ProviderGen.Text.Blank
import ProviderGen.Text.Digit

namespace ProviderGen.Number

/-- A character as numbers are read: digits of any script and blanks beyond ASCII are taken for
those of ASCII. -/
def plainCharacter (c : Char) : Char :=
  if c.toNat < 0x80 then c
  else if Text.isBlank c then ' '
  else match Text.decimalValue? c with
    | some value => Char.ofNat ('0'.toNat + value)
    | none => c

def surrounds (c : Char) : Bool :=
  c == ' ' || (0x9 ≤ c.toNat && c.toNat ≤ 0xd)

def plainText (text : List Char) : List Char :=
  Text.trimRight surrounds ((text.map plainCharacter).dropWhile surrounds)

/-- A text without its underscores, if each of them stands between two digits. -/
def joinDigits? (isDigit : Char → Bool) (afterDigit : Bool) : List Char → Option (List Char)
  | [] => some []
  | '_' :: next :: rest =>
      if afterDigit && isDigit next then joinDigits? isDigit false (next :: rest) else none
  | ['_'] => none
  | c :: rest => (joinDigits? isDigit (isDigit c) rest).map (c :: ·)

/-- The value of a digit in bases up to 36. -/
def digitValue? (c : Char) : Option Nat :=
  if '0' ≤ c && c ≤ '9' then some (c.toNat - '0'.toNat)
  else if 'a' ≤ c && c ≤ 'z' then some (c.toNat - 'a'.toNat + 10)
  else if 'A' ≤ c && c ≤ 'Z' then some (c.toNat - 'A'.toNat + 10)
  else none

/-- Whether a character is a digit of a base. -/
def isDigitOf (base : Nat) (c : Char) : Bool :=
  (digitValue? c).any (· < base)

def valueOf (base : Nat) (digits : List Char) : Nat :=
  digits.foldl (fun value c => value * base + (digitValue? c).getD 0) 0

/-- A sign in front of a text, if there is one, and the rest: whether it is a minus. -/
def signed : List Char → Bool × List Char
  | '-' :: rest => (true, rest)
  | '+' :: rest => (false, rest)
  | text => (false, text)

/-- A text in small letters of ASCII. -/
def small (text : List Char) : List Char := text.map Char.toLower

/-- Whether a character is a decimal digit of ASCII. -/
def isDigit (c : Char) : Bool := '0' ≤ c && c ≤ '9'

def exponent? : List Char → Option Int
  | [] => some 0
  | mark :: rest =>
      let (negative, digits) := signed rest
      if (mark == 'e' || mark == 'E') && !digits.isEmpty && digits.all isDigit then
        let value : Int := valueOf 10 digits
        some (if negative then -value else value)
      else
        none

/-- How far from one a number may be before it is taken for infinite, or for zero, in decimal
places. -/
def maxPlaces : Int := 400

/-- The number of some digits with an exponent for the last of them. -/
def ofDigits (negative : Bool) (digits : List Char) (exponent : Int) : Binary64 :=
  let digits := digits.dropWhile (· == '0')
  let first := exponent + digits.length
  if digits.isEmpty || first < -maxPlaces then .zero negative
  else if maxPlaces < first then .infinite negative
  else .ofDecimal negative (valueOf 10 digits) exponent

/-- The number of a decimal text without a sign. -/
def unsignedBinary? (negative : Bool) (text : List Char) : Option Binary64 :=
  let whole := text.takeWhile isDigit
  let rest := text.dropWhile isDigit
  let (fraction, rest) := match rest with
    | '.' :: rest => (rest.takeWhile isDigit, rest.dropWhile isDigit)
    | rest => ([], rest)
  if whole.isEmpty && fraction.isEmpty then
    none
  else
    (exponent? rest).map fun exponent =>
      ofDigits negative (whole ++ fraction) (exponent - fraction.length)

/-- The number that a text stands for. -/
def readBinary? (text : String) : Option Binary64 := do
  let joined ← joinDigits? isDigit false (plainText text.toList)
  let (negative, rest) := signed joined
  if small rest = "inf".toList || small rest = "infinity".toList then
    return .infinite negative
  if small rest = "nan".toList then
    return .nan
  unsignedBinary? negative rest

/-- Why a text is no whole number. -/
inductive IntegerError
  | notInteger (base : Nat) (text : String)
  | tooLong (digits : Nat)
  deriving DecidableEq, Repr

/-- How many decimal digits a whole number may have in a text. -/
def maxIntegerDigits : Nat := 4300

/-- Digits without the mark of a base that is a power of two. -/
def withoutMark (base : Nat) (text : List Char) : List Char :=
  match text with
  | '0' :: mark :: rest =>
      let marks := if base = 2 then ['b', 'B'] else if base = 8 then ['o', 'O']
        else if base = 16 then ['x', 'X'] else []
      if marks.contains mark then
        match rest with
        | '_' :: rest => rest
        | rest => rest
      else
        text
  | text => text

/-- The whole number that a text stands for in a base. -/
def readInteger (base : Nat) (text : String) : Except IntegerError Int :=
  let (negative, rest) := signed (plainText text.toList)
  match joinDigits? (isDigitOf base) false (withoutMark base rest) with
  | none => .error (.notInteger base text)
  | some digits =>
      if digits.isEmpty || !digits.all (isDigitOf base) then
        .error (.notInteger base text)
      else if base = 10 && maxIntegerDigits < digits.length then
        .error (.tooLong digits.length)
      else
        let value : Int := valueOf base digits
        .ok (if negative then -value else value)

/-- The text of a whole number; none if it is too long. -/
def integerText? (n : Int) : Option String :=
  let text := toString n.natAbs
  if maxIntegerDigits < text.length then none
  else some (if n < 0 then "-" ++ text else text)

/-- The wording for a whole number that is too long to be written out. -/
def longIntegerMessage : String :=
  s!"Exceeds the limit ({maxIntegerDigits} digits) for integer string conversion; " ++
    "use sys.set_int_max_str_digits() to increase the limit"

end ProviderGen.Number
