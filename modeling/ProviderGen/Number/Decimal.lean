import ProviderGen.Number.Binary64

namespace ProviderGen

namespace Binary64

/-- The exponent of the first decimal digit of a fraction that is not zero. -/
def leadingExponent (num den : Nat) : Int :=
  let guess : Int := (Nat.toDigits 10 num).length - (Nat.toDigits 10 den).length
  let power := scaleDown 10 num den guess
  if power.1 < power.2 then guess - 1 else guess

/-- A fraction rounded to some significant digits, as a whole number and the exponent of its last
digit. -/
def significant (count : Nat) (num den : Nat) : Nat × Int :=
  let last := leadingExponent num den - count + 1
  let scaled := scaleDown 10 num den last
  (roundQuotient scaled.1 scaled.2, last)

/-- The number that a whole number times a power of ten reads as. -/
def ofDecimal (negative : Bool) (digits : Nat) (exponent : Int) : Binary64 :=
  let size := scaleDown 10 digits 1 (-exponent)
  ofRatio negative size.1 size.2

/-- The closest of the two decimals around a number that read back, with so many digits. -/
def readsBack? (count : Nat) (mantissa : Nat) (exponent : Int) : Option (Nat × Int) :=
  let (num, den) := ratio mantissa exponent
  let last := leadingExponent num den - count + 1
  let scaled := scaleDown 10 num den last
  let nearest := roundQuotient scaled.1 scaled.2
  let below := scaled.1 / scaled.2
  let other := if nearest = below then below + 1 else below
  let works := fun digits => ofDecimal false digits last = finite false mantissa exponent
  if works nearest then some (nearest, last)
  else if works other then some (other, last)
  else none

/-- How many digits always suffice. -/
def maxDigits : Nat := 17

/-- The shortest decimal that reads back as a number. -/
def shortest (mantissa : Nat) (exponent : Int) : Nat × Int :=
  ((List.range maxDigits).findSome? fun count =>
    readsBack? (count + 1) mantissa exponent).getD (mantissa, exponent)

structure DecimalFormat where
  /-- From this exponent of the first digit on, an exponent is written. -/
  exponentFrom : Int
  /-- Whether a whole number is written with a fraction of zero. -/
  keepsFraction : Bool

/-- The smallest exponent of the first digit that is written without an exponent. -/
def lowestPlain : Int := -4

/-- Digits without the zeros at their end. -/
def withoutZeros (digits : List Char) : List Char :=
  (digits.reverse.dropWhile (· == '0')).reverse

/-- An exponent, with its sign and two digits at least. -/
def exponentText (exponent : Int) : List Char :=
  let digits := Nat.toDigits 10 exponent.natAbs
  (if exponent < 0 then '-' else '+') :: (if digits.length < 2 then '0' :: digits else digits)

/-- Digits in the given format; the exponent is that of the first digit. -/
def formatDigits (format : DecimalFormat) (digits : List Char) (first : Int) : List Char :=
  if first < lowestPlain || format.exponentFrom ≤ first then
    let fraction := digits.drop 1
    digits.take 1 ++ (if fraction.isEmpty then [] else '.' :: fraction) ++
      'e' :: exponentText first
  else if first < 0 then
    '0' :: '.' :: (List.replicate (first.natAbs - 1) '0' ++ digits)
  else
    let whole := first.toNat + 1
    let fraction := digits.drop whole
    digits.take whole ++ List.replicate (whole - digits.length) '0' ++
      (if fraction.isEmpty then (if format.keepsFraction then ['.', '0'] else [])
        else '.' :: fraction)

def formatDecimal (format : DecimalFormat) (digits : Nat) (last : Int) : List Char :=
  let text := Nat.toDigits 10 digits
  let first := last + text.length - 1
  let digits := withoutZeros text
  formatDigits format (if digits.isEmpty then ['0'] else digits) first

/-- The text of a number, with a way to write those that are finite and not zero. -/
def textWith (format : DecimalFormat) (decimal : Nat → Int → Nat × Int) :
    Binary64 → String
  | nan => "nan"
  | infinite negative => if negative then "-inf" else "inf"
  | finite negative mantissa exponent =>
      let text :=
        if mantissa = 0 then formatDecimal format 0 0
        else
          let (digits, last) := decimal mantissa exponent
          formatDecimal format digits last
      String.ofList (if negative then '-' :: text else text)

/-- The shortest text that reads back as a number. Exponents are written from `1e+16` on. -/
def toText (number : Binary64) : String :=
  number.textWith ⟨16, true⟩ shortest

/-- The text of a number with six significant digits. Exponents are written from `1e+06` on. -/
def toShortText (number : Binary64) : String :=
  number.textWith ⟨6, false⟩ fun mantissa exponent =>
    let size := ratio mantissa exponent
    significant 6 size.1 size.2

end Binary64

end ProviderGen
