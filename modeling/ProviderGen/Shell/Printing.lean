import ProviderGen.Shell.Arithmetic
import ProviderGen.Text.Quoted
import ProviderGen.Text.Utf8

namespace ProviderGen.Shell

/-- Which escapes count: those of the shell itself, or further ones as well. -/
inductive Escapes
  | basic
  | extended
  deriving DecidableEq, Repr

def letterEscape? (escapes : Escapes) (c : Char) : Option UInt8 :=
  match c with
  | 'a' => some 7
  | 'b' => some 8
  | 't' => some 9
  | 'n' => some 10
  | 'v' => some 11
  | 'f' => some 12
  | 'r' => some 13
  | '\\' => some 92
  | 'e' => if escapes = .extended then some 27 else none
  | '"' => if escapes = .extended then some 34 else none
  | _ => none

/-- Whether a character is an octal digit. -/
def isOctal (c : Char) : Bool := '0' ≤ c && c ≤ '7'

/-- Whether a character is a hexadecimal digit. -/
def isHexadecimal (c : Char) : Bool :=
  c.isDigit || ('a' ≤ c.toLower && c.toLower ≤ 'f')

def byteOf (base : Nat) (digits : List Char) : UInt8 :=
  UInt8.ofNat (digits.foldl (fun value c => value * base + Arithmetic.digitValue c) 0)

/-- What an escape is: bytes and the text after it, or the end of all printing. -/
inductive EscapeMeaning
  | bytes (bytes : List UInt8) (rest : List Char)
  | stop

/-- The meaning of an escape after its backslash. With `zeroFirst`, an octal number may have a zero
in front, and `\c` ends the printing. -/
def escapeMeaning (escapes : Escapes) (zeroFirst : Bool) (text : List Char) : EscapeMeaning :=
  match text with
  | [] => .bytes [92] []
  | c :: rest =>
      if c = 'c' && (zeroFirst || escapes = .extended) then
        .stop
      else
        match letterEscape? escapes c with
        | some byte => .bytes [byte] rest
        | none =>
            if isOctal c then
              let text := if zeroFirst && c = '0' && rest.head?.any isOctal then rest else text
              let digits := (text.take 3).takeWhile isOctal
              .bytes [byteOf 8 digits] (text.drop digits.length)
            else if c = 'x' && escapes = .extended && rest.head?.any isHexadecimal then
              let digits := (rest.take 2).takeWhile isHexadecimal
              .bytes [byteOf 16 digits] (rest.drop digits.length)
            else
              .bytes [92] text

def bytesOf (c : Char) : List UInt8 := Text.encode (String.ofList [c])

/-- The bytes of a text with escapes, and whether it ends all printing. -/
def unescape (escapes : Escapes) : Nat → List Char → List UInt8 × Bool
  | 0, _ | _, [] => ([], false)
  | bound + 1, '\\' :: rest =>
      match escapeMeaning escapes true rest with
      | .stop => ([], true)
      | .bytes bytes rest =>
          let (others, stopped) := unescape escapes bound rest
          (bytes ++ others, stopped)
  | bound + 1, c :: rest =>
      let (others, stopped) := unescape escapes bound rest
      (bytesOf c ++ others, stopped)

/-- What is printed, what is wrong with it, and whether the printing is at its end. -/
structure Printed where
  bytes : List UInt8
  complaints : List String
  stopped : Bool

/-- How a value is laid out: its flags, its least width and its precision. -/
structure Layout where
  flags : List Char
  width : Nat
  precision : Option Nat

/-- Text filled up to a width. -/
def Layout.pad (layout : Layout) (bytes : List UInt8) : List UInt8 :=
  let fill := List.replicate (layout.width - bytes.length) (32 : UInt8)
  if layout.flags.contains '-' then bytes ++ fill else fill ++ bytes

/-- A number with its sign or mark, filled up to a width. -/
def Layout.number (layout : Layout) (mark : String) (digits : List Char) : List UInt8 :=
  let digits := List.replicate (layout.precision.getD 1 - digits.length) '0' ++ digits
  let filled :=
    if layout.flags.contains '0' && !layout.flags.contains '-' && layout.precision.isNone then
      List.replicate (layout.width - mark.length - digits.length) '0' ++ digits
    else digits
  layout.pad (Text.encode (mark ++ String.ofList filled))

def numericValue? (text : String) : Option Int :=
  match text.toList.dropWhile (· = ' ') with
  | [] => some 0
  | '\'' :: c :: _ => some c.toNat
  | '"' :: c :: _ => some c.toNat
  | '-' :: digits => (Arithmetic.numeral? digits).map (- ·)
  | '+' :: digits => Arithmetic.numeral? digits
  | digits => Arithmetic.numeral? digits

/-- Whether a letter stands for a number in a format. -/
def isNumeric (c : Char) : Bool := ['d', 'i', 'u', 'x', 'X', 'o'].contains c

def printArgument (escapes : Escapes) (layout : Layout) (letter : Char) (argument : String) :
    Printed :=
  if isNumeric letter then
    let value := (numericValue? argument).getD 0
    let complaints :=
      if (numericValue? argument).isSome then [] else [s!"{argument}: expected numeric value"]
    let size := if value < 0 && letter ≠ 'd' && letter ≠ 'i' then (value % Nat.pow 2 64).toNat
      else value.natAbs
    let alternate := layout.flags.contains '#' && size ≠ 0
    let digits := fun base => Nat.toDigits base size
    let sign := if value < 0 then "-" else if layout.flags.contains '+' then "+"
      else if layout.flags.contains ' ' then " " else ""
    let bytes := match letter with
      | 'x' => layout.number (if alternate then "0x" else "") (digits 16)
      | 'X' =>
          layout.number (if alternate then "0X" else "") ((digits 16).map Char.toUpper)
      | 'o' => layout.number (if alternate then "0" else "") (digits 8)
      | 'u' => layout.number "" (digits 10)
      | _ => layout.number sign (digits 10)
    ⟨bytes, complaints, false⟩
  else
    let cut := fun (bytes : List UInt8) => match layout.precision with
      | some precision => bytes.take precision
      | none => bytes
    match letter with
    | 'c' => ⟨layout.pad ((Text.encode argument).take 1), [], false⟩
    | 'b' =>
        let (bytes, stopped) := unescape escapes (argument.length + 1) argument.toList
        ⟨layout.pad (cut bytes), [], stopped⟩
    | 's' => ⟨layout.pad (cut (Text.encode argument)), [], false⟩
    | letter => ⟨[], [s!"%{letter}: invalid directive"], true⟩

/-- The flags, the width and the precision that a directive begins with, and what is left of the
arguments and of the text. A star takes an argument. -/
def cutLayout (arguments : List String) (text : List Char) :
    Layout × List String × List Char :=
  let isFlag := ['-', '+', ' ', '#', '0'].contains
  let flags := text.takeWhile isFlag
  let text := text.dropWhile isFlag
  let numberOf := fun (digits : List Char) => (String.ofList digits).toNat?.getD 0
  let cutNumber := fun (arguments : List String) (text : List Char) =>
    match text with
    | '*' :: rest => (((arguments.head?.bind numericValue?).getD 0).toNat, arguments.tail, rest)
    | text => (numberOf (text.takeWhile Char.isDigit), arguments, text.dropWhile Char.isDigit)
  let (width, arguments, text) := cutNumber arguments text
  match text with
  | '.' :: rest =>
      let (precision, arguments, rest) := cutNumber arguments rest
      (⟨flags, width, some precision⟩, arguments, rest)
  | text => (⟨flags, width, none⟩, arguments, text)

/-- What one pass over a format prints, and the arguments that are left. -/
def printOnce (escapes : Escapes) : Nat → List String → List Char → Printed × List String
  | 0, arguments, _ | _, arguments, [] => (⟨[], [], false⟩, arguments)
  | bound + 1, arguments, c :: rest =>
      let goOn := fun (first : Printed) (arguments : List String) (rest : List Char) =>
        if first.stopped then
          (first, [])
        else
          let (others, arguments) := printOnce escapes bound arguments rest
          (⟨first.bytes ++ others.bytes, first.complaints ++ others.complaints, others.stopped⟩,
            arguments)
      if c = '\\' then
        match escapeMeaning escapes false rest with
        | .stop => (⟨[], [], true⟩, [])
        | .bytes bytes rest => goOn ⟨bytes, [], false⟩ arguments rest
      else if c = '%' then
        match rest with
        | '%' :: rest => goOn ⟨[37], [], false⟩ arguments rest
        | rest =>
            let (layout, arguments, rest) := cutLayout arguments rest
            match rest with
            | letter :: rest =>
                let argument := arguments.headD ""
                goOn (printArgument escapes layout letter argument) arguments.tail rest
            | [] => (⟨[], ["%: invalid directive"], true⟩, [])
      else
        goOn ⟨bytesOf c, [], false⟩ arguments rest

/-- What a format prints of arguments. It is used again as long as it takes some of them. -/
def printAll (escapes : Escapes) (format : String) : Nat → List String → Printed
  | 0, _ => ⟨[], [], false⟩
  | bound + 1, arguments =>
      let (first, left) := printOnce escapes (format.length + 1) arguments format.toList
      if left = [] || left.length = arguments.length || first.stopped then
        first
      else
        let others := printAll escapes format bound left
        ⟨first.bytes ++ others.bytes, first.complaints ++ others.complaints, others.stopped⟩

end ProviderGen.Shell
