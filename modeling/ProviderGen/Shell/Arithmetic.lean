import ProviderGen.Text.Digit

namespace ProviderGen.Shell.Arithmetic

/-- Why an expression has no value. -/
inductive ArithmeticError
  | divisionByZero
  | malformed
  deriving DecidableEq, Repr

def ArithmeticError.message : ArithmeticError → String
  | divisionByZero => "division by zero"
  | malformed => "expecting primary"

inductive Token
  | number (value : Int)
  | name (text : String)
  | sign (text : String)
  deriving DecidableEq, Repr

/-- The signs; the longer ones come first. -/
def signs : List String :=
  ["<<", ">>", "<=", ">=", "==", "!=", "&&", "||", "+", "-", "*", "/", "%", "<", ">", "&", "|",
    "^", "!", "~", "?", ":", "(", ")"]

/-- How strongly a sign between two operands binds them. -/
def strength? : String → Option Nat
  | "||" => some 1
  | "&&" => some 2
  | "|" => some 3
  | "^" => some 4
  | "&" => some 5
  | "==" | "!=" => some 6
  | "<" | "<=" | ">" | ">=" => some 7
  | "<<" | ">>" => some 8
  | "+" | "-" => some 9
  | "*" | "/" | "%" => some 10
  | _ => none

/-- A value as one of 64 bits. -/
def wrap (value : Int) : Int := Int.bmod value (Nat.pow 2 64)

def digitValue (c : Char) : Nat :=
  if c.isDigit then c.toNat - '0'.toNat else c.toLower.toNat - 'a'.toNat + 10

/-- The value of digits in a base; none if one of them is too large. -/
def digitsValue? (base : Nat) (digits : List Char) : Option Int :=
  if digits ≠ [] && digits.all fun c => c.isAlphanum && digitValue c < base then
    some (digits.foldl (fun value c => value * base + digitValue c) 0)
  else none

/-- The value of a numeral: decimal, or with a mark in front octal or hexadecimal. -/
def numeral? : List Char → Option Int
  | '0' :: 'x' :: digits => digitsValue? 16 digits
  | '0' :: 'X' :: digits => digitsValue? 16 digits
  | ['0'] => some 0
  | '0' :: digits => digitsValue? 8 digits
  | digits => digitsValue? 10 digits

def tokens : Nat → List Char → Except ArithmeticError (List Token)
  | 0, _ | _, [] => .ok []
  | bound + 1, c :: rest => do
      let isNamed := fun (c : Char) => c.isAlphanum || c == '_'
      if c = ' ' || c = '\t' || c = '\n' then
        tokens bound rest
      else if isNamed c then
        let text := (c :: rest).takeWhile isNamed
        let token ←
          if c.isDigit then
            match numeral? text with
            | some value => pure (.number value)
            | none => throw .malformed
          else pure (.name (String.ofList text))
        return token :: (← tokens bound ((c :: rest).dropWhile isNamed))
      else
        match signs.find? fun sign => sign.toList.isPrefixOf (c :: rest) with
        | some sign => return .sign sign :: (← tokens bound ((c :: rest).drop sign.length))
        | none => throw .malformed

def truth (holds : Bool) : Int := if holds then 1 else 0

/-- What a sign between two operands makes of them. -/
def apply (sign : String) (a b : Int) : Except ArithmeticError Int :=
  match sign with
  | "||" => .ok (truth (a ≠ 0 || b ≠ 0))
  | "&&" => .ok (truth (a ≠ 0 && b ≠ 0))
  | "|" => .ok (Int.ofNat ((BitVec.ofInt 64 a) ||| (BitVec.ofInt 64 b)).toNat)
  | "^" => .ok (Int.ofNat ((BitVec.ofInt 64 a) ^^^ (BitVec.ofInt 64 b)).toNat)
  | "&" => .ok (Int.ofNat ((BitVec.ofInt 64 a) &&& (BitVec.ofInt 64 b)).toNat)
  | "==" => .ok (truth (a = b))
  | "!=" => .ok (truth (a ≠ b))
  | "<" => .ok (truth (a < b))
  | "<=" => .ok (truth (a ≤ b))
  | ">" => .ok (truth (b < a))
  | ">=" => .ok (truth (b ≤ a))
  | "<<" => .ok (a * Nat.pow 2 (b % 64).toNat)
  | ">>" => .ok (Int.fdiv a (Nat.pow 2 (b % 64).toNat))
  | "+" => .ok (a + b)
  | "-" => .ok (a - b)
  | "*" => .ok (a * b)
  | "/" => if b = 0 then .error .divisionByZero else .ok (Int.tdiv a b)
  | "%" => if b = 0 then .error .divisionByZero else .ok (Int.tmod a b)
  | _ => .error .malformed

def variableValue (valueOf : String → Option String) (name : String) :
    Except ArithmeticError Int :=
  match ((valueOf name).getD "").toList with
  | [] => .ok 0
  | '-' :: digits => (numeral? digits).elim (.error .malformed) fun value => .ok (-value)
  | digits => (numeral? digits).elim (.error .malformed) .ok

mutual

/-- The value of a single operand, and the tokens after it. -/
def operand (valueOf : String → Option String) :
    Nat → List Token → Except ArithmeticError (Int × List Token)
  | bound + 1, .sign sign :: rest => do
      if sign = "(" then
        let (value, rest) ← expression valueOf bound rest
        if rest.head? = some (.sign ")") then
          return (value, rest.tail)
        else
          throw .malformed
      let (value, rest) ← operand valueOf bound rest
      match sign with
      | "-" => return (wrap (-value), rest)
      | "+" => return (value, rest)
      | "!" => return (truth (value = 0), rest)
      | "~" => return (wrap (-value - 1), rest)
      | _ => throw .malformed
  | _ + 1, .number value :: rest => .ok (wrap value, rest)
  | _ + 1, .name name :: rest => (variableValue valueOf name).map (·, rest)
  | _, _ => .error .malformed

/-- Goes on after a value with the signs that bind at least so strongly. -/
def operation (valueOf : String → Option String) :
    Nat → Nat → Int → List Token → Except ArithmeticError (Int × List Token)
  | bound + 1, least, value, .sign sign :: rest => do
      match strength? sign with
      | some strength =>
          if strength < least then
            return (value, .sign sign :: rest)
          let (right, rest) ← operand valueOf bound rest
          let (right, rest) ← operation valueOf bound (strength + 1) right rest
          let value ← apply sign value right
          operation valueOf bound least (wrap value) rest
      | none => return (value, .sign sign :: rest)
  | _, _, value, rest => .ok (value, rest)

/-- The value of an expression, and the tokens after it. -/
def expression (valueOf : String → Option String) :
    Nat → List Token → Except ArithmeticError (Int × List Token)
  | 0, _ => .error .malformed
  | bound + 1, tokens => do
      let (value, rest) ← operand valueOf bound tokens
      let (value, rest) ← operation valueOf bound 1 value rest
      if rest.head? = some (.sign "?") then
        let (whenTrue, rest) ← expression valueOf bound rest.tail
        if rest.head? = some (.sign ":") then
          let (whenFalse, rest) ← expression valueOf bound rest.tail
          return (if value ≠ 0 then whenTrue else whenFalse, rest)
        else
          throw .malformed
      return (value, rest)

end

/-- The value of a text. An empty one is zero. -/
def value (valueOf : String → Option String) (text : String) : Except ArithmeticError Int := do
  let tokens ← tokens (text.length + 1) text.toList
  if tokens = [] then
    return 0
  let (value, rest) ← expression valueOf (4 * (tokens.length + 1)) tokens
  if rest = [] then
    return value
  else
    throw .malformed

end ProviderGen.Shell.Arithmetic
