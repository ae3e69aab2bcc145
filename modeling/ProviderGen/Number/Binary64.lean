/-!
Binary floating-point numbers of 64 bits, as exact values. Every operation finds its exact result
first and rounds it once, to the nearest number, and from the middle to the even neighbour.
-/

namespace ProviderGen

/-- A number: its sign, and a whole number of at most 53 bits times a power of two. -/
inductive Binary64
  | nan
  | infinite (negative : Bool)
  | finite (negative : Bool) (mantissa : Nat) (exponent : Int)
  deriving DecidableEq, Repr

namespace Binary64

def mantissaBits : Nat := 53

def minExponent : Int := -1074

def maxExponent : Int := 971

def zero (negative : Bool) : Binary64 := finite negative 0 minExponent

/-- A quotient as a whole number, to the nearest one, and from the middle to the even one. -/
def roundQuotient (num den : Nat) : Nat :=
  let quotient := num / den
  let rest := 2 * (num % den)
  if rest < den || (rest = den && quotient % 2 = 0) then quotient else quotient + 1

/-- The fraction `num / den`, divided by a power of a base. -/
def scaleDown (base : Nat) (num den : Nat) (exponent : Int) : Nat × Nat :=
  let power := Nat.pow base exponent.natAbs
  if exponent < 0 then (num * power, den) else (num, den * power)

/-- The number nearest to a fraction. -/
def ofRatio (negative : Bool) (num den : Nat) : Binary64 :=
  if num = 0 then
    zero negative
  else
    let low := max minExponent ((num.log2 : Int) - den.log2 - mantissaBits)
    let lowest := scaleDown 2 num den low
    let exponent := if lowest.1 / lowest.2 < Nat.pow 2 mantissaBits then low else low + 1
    let scaled := scaleDown 2 num den exponent
    let mantissa := roundQuotient scaled.1 scaled.2
    let (mantissa, exponent) :=
      if mantissa = Nat.pow 2 mantissaBits then (mantissa / 2, exponent + 1)
      else (mantissa, exponent)
    if maxExponent < exponent then infinite negative else finite negative mantissa exponent

/-- The number nearest to a whole number; none if that is too large. -/
def ofInt? (n : Int) : Option Binary64 :=
  match ofRatio (n < 0) n.natAbs 1 with
  | infinite _ => none
  | number => some number

def powerOfTwo (exponent : Int) : Nat × Nat :=
  let power := Nat.pow 2 exponent.natAbs
  if exponent < 0 then (1, power) else (power, 1)

/-- The size of a finite number as a fraction. -/
def ratio (mantissa : Nat) (exponent : Int) : Nat × Nat :=
  let power := powerOfTwo exponent
  (mantissa * power.1, power.2)

/-- Whether a number is zero or below. That is not so of what is no number. -/
def isAtMostZero : Binary64 → Bool
  | nan => false
  | infinite negative => negative
  | finite negative mantissa _ => negative || mantissa = 0

/-- A number with the other sign. -/
def negate : Binary64 → Binary64
  | nan => nan
  | infinite negative => infinite !negative
  | finite negative mantissa exponent => finite (!negative) mantissa exponent

/-- The product of two numbers. -/
def multiply : Binary64 → Binary64 → Binary64
  | nan, _ => nan
  | _, nan => nan
  | infinite a, infinite b => infinite (a != b)
  | infinite a, finite b mantissa _ => if mantissa = 0 then nan else infinite (a != b)
  | finite a mantissa _, infinite b => if mantissa = 0 then nan else infinite (a != b)
  | finite a m e, finite b n f =>
      let size := ratio (m * n) (e + f)
      ofRatio (a != b) size.1 size.2

/-- The sum of two numbers. -/
def add : Binary64 → Binary64 → Binary64
  | nan, _ => nan
  | _, nan => nan
  | infinite a, infinite b => if a = b then infinite a else nan
  | infinite a, finite .. => infinite a
  | finite .., infinite b => infinite b
  | finite a m e, finite b n f =>
      let least := min e f
      let signed := fun (negative : Bool) (mantissa : Nat) (exponent : Int) =>
        let size : Int := mantissa * Nat.pow 2 (exponent - least).toNat
        if negative then -size else size
      let sum := signed a m e + signed b n f
      if sum = 0 then
        zero (a && b)
      else
        let size := ratio sum.natAbs least
        ofRatio (sum < 0) size.1 size.2

end Binary64

end ProviderGen
