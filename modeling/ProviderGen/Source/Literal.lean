import ProviderGen.Interpreter
import ProviderGen.Source.Lexer

namespace ProviderGen.Source.Literal

/-- A string literal taken apart. -/
structure Parts where
  isRaw : Bool
  isBytes : Bool
  isFormatted : Bool
  body : List Char

/-- Takes the text of a string token apart. -/
def partsOf (token : Token) : Parts :=
  let letters := (token.text.toList.takeWhile Char.isAlpha).map Char.toLower
  let quoted := token.text.toList.drop letters.length
  let isTriple := match quoted with
    | q :: r :: s :: _ => r == q && s == q && 6 ≤ quoted.length
    | _ => false
  let size := if isTriple then 3 else 1
  { isRaw := letters.contains 'r'
    isBytes := letters.contains 'b'
    isFormatted := letters.contains 'f'
    body := (quoted.drop size).take (quoted.length - 2 * size) }

/-- Whether a text starts with a number of hexadecimal digits. -/
def startsWithHex (count : Nat) (text : List Char) : Bool :=
  (text.take count).length = count && (text.take count).all Number.isHexDigit

/-- The value of a hexadecimal digit. -/
def hexValue (c : Char) : Nat :=
  if c.isDigit then c.toNat - '0'.toNat else c.toLower.toNat - 'a'.toNat + 10

/-- The value of hexadecimal digits. -/
def hexNumber (digits : List Char) : Nat :=
  digits.foldl (fun value c => value * 16 + hexValue c) 0

def bytesEscapesComplete : List Char → Bool
  | '\\' :: 'x' :: rest => startsWithHex 2 rest && bytesEscapesComplete rest
  | '\\' :: _ :: rest => bytesEscapesComplete rest
  | _ :: rest => bytesEscapesComplete rest
  | [] => true

variable [Interpreter]

/-- Whether a text starts with the name of a character in braces. -/
def startsWithName : List Char → Bool
  | '{' :: rest => rest.contains '}' && Interpreter.namesCharacter (rest.takeWhile (· != '}'))
  | _ => false

/-- Whether each escape of a text is complete and stands for a character. -/
def escapesComplete : List Char → Bool
  | '\\' :: 'x' :: rest => startsWithHex 2 rest && escapesComplete rest
  | '\\' :: 'u' :: rest => startsWithHex 4 rest && escapesComplete rest
  | '\\' :: 'U' :: rest =>
      startsWithHex 8 rest && hexNumber (rest.take 8) ≤ 0x10ffff && escapesComplete rest
  | '\\' :: 'N' :: rest => startsWithName rest && escapesComplete rest
  | '\\' :: _ :: rest => escapesComplete rest
  | _ :: rest => escapesComplete rest
  | [] => true

/-- The plain text of a formatted string up to a field or to the end, and what follows. -/
structure PlainText where
  text : List Char
  rest : List Char
  /-- Whether the text ends at a doubled brace, so that more text may follow. -/
  goesOn : Bool

/-- Reads plain text up to a brace that is not doubled, after the characters read so far; none if a
closing brace stands alone. In a format braces are not doubled. -/
def plainText? (isRaw inFormat : Bool) : Nat → List Char → List Char → Option PlainText
  | 0, text, read => some ⟨read.reverse, text, false⟩
  | _, [], read => some ⟨read.reverse, [], false⟩
  | bound + 1, c :: rest, read =>
      let escapes := c == '\\' && !isRaw && !rest.isEmpty
      let (c, rest, read) := match escapes, rest with
        | true, d :: more => (d, more, c :: read)
        | _, _ => (c, rest, read)
      if escapes && c == 'N' then
        match rest with
        | '{' :: more =>
            let name := more.takeWhile (· != '}')
            let after := more.drop name.length
            plainText? isRaw inFormat bound (after.drop 1)
              (after.take 1 ++ name.reverse ++ '{' :: c :: read)
        | d :: more => plainText? isRaw inFormat bound more (d :: c :: read)
        | [] => some ⟨(c :: read).reverse, [], false⟩
      else if c == '{' || c == '}' then
        if inFormat then some ⟨read.reverse, c :: rest, false⟩
        else if rest.head? = some c then some ⟨(c :: read).reverse, rest.drop 1, true⟩
        else if c == '}' then none
        else some ⟨read.reverse, c :: rest, false⟩
      else
        plainText? isRaw inFormat bound rest (c :: read)

/-- Reads the expression of a field up to what ends it, after the characters read so far; none if
its quotes and brackets do not match, or if it holds a backslash or a comment. -/
def fieldExpression? (quote : Option (Char × Bool)) (open_ : List Char) (read : List Char) :
    List Char → Option (List Char × List Char)
  | [] => if quote.isNone && open_.isEmpty then some (read.reverse, []) else none
  | c :: rest =>
      if c == '\\' then
        none
      else
        match quote with
        | some (mark, isTriple) =>
            if c != mark then
              fieldExpression? quote open_ (c :: read) rest
            else if !isTriple then
              fieldExpression? none open_ (c :: read) rest
            else
              match rest with
              | d :: e :: more =>
                  if d == mark && e == mark then
                    fieldExpression? none open_ (e :: d :: c :: read) more
                  else
                    fieldExpression? quote open_ (c :: read) (d :: e :: more)
              | rest => fieldExpression? quote open_ (c :: read) rest
        | none =>
            if c == '\'' || c == '"' then
              match rest with
              | d :: e :: more =>
                  if d == c && e == c then
                    fieldExpression? (some (c, true)) open_ (e :: d :: c :: read) more
                  else
                    fieldExpression? (some (c, false)) open_ (c :: read) (d :: e :: more)
              | rest => fieldExpression? (some (c, false)) open_ (c :: read) rest
            else if c == '(' || c == '[' || c == '{' then
              if maxBrackets ≤ open_.length then none
              else fieldExpression? none (c :: open_) (c :: read) rest
            else if c == '#' then
              none
            else if open_.isEmpty && ['!', ':', '}', '=', '>', '<'].contains c then
              match rest with
              | '=' :: more =>
                  if ['!', '=', '>', '<'].contains c then
                    fieldExpression? none open_ ('=' :: c :: read) more
                  else
                    some (read.reverse, c :: '=' :: more)
              | rest =>
                  if c == '>' || c == '<' then fieldExpression? none open_ (c :: read) rest
                  else some (read.reverse, c :: rest)
            else if c == ')' || c == ']' || c == '}' then
              match open_ with
              | opened :: others =>
                  if closing opened = c then fieldExpression? none others (c :: read) rest else none
              | [] => none
            else
              fieldExpression? none open_ (c :: read) rest

/-- Whether a character may stand around an expression in a field. -/
def isFieldBlank (c : Char) : Bool :=
  isLineBlank c || c == '\n'

/-- What follows the `=` of a field that shows its own text. -/
def afterSelfText (text : List Char) : List Char :=
  match text with
  | '=' :: rest => rest.dropWhile fun c => isFieldBlank c || c == '\r' || c == '\x0b'
  | rest => rest

/-- What follows the conversion of a field; none if the conversion is unknown. -/
def afterConversion? (text : List Char) : Option (List Char) :=
  match text with
  | '!' :: c :: rest => if c == 's' || c == 'r' || c == 'a' then some rest else none
  | ['!'] => none
  | rest => some rest

/-- What is needed to check a literal: how an expression that starts on a line is parsed, the line
of the literal, and the line of the last token read. -/
structure Check where
  parse : Nat → List Char → Except Nat Unit
  tokenLine : Nat
  lastLine : Nat

/-- Checks a formatted string of a number of line feeds from some place on, and gives what follows
it: nothing, or the brace that closes the field whose format it is. Fields nest in formats at most
once. -/
def Check.formatted (check : Check) (isRaw : Bool) (lineFeeds : Nat) :
    Nat → Nat → List Char → Except Nat (List Char)
  | 0, _, _ => .error check.lastLine
  | bound + 1, level, text =>
      match plainText? isRaw (level != 0) text.length text [] with
      | none => .error check.lastLine
      | some plain =>
          if !isRaw && !escapesComplete plain.text then
            .error check.lastLine
          else if plain.goesOn then
            check.formatted isRaw lineFeeds bound level plain.rest
          else
            match plain.rest with
            | [] => if level = 0 then .ok [] else .error check.lastLine
            | '{' :: rest => do
                if 2 ≤ level then throw check.lastLine
                let some (expression, rest) := fieldExpression? none [] [] rest
                  | throw check.lastLine
                if rest.isEmpty || expression.all isFieldBlank then throw check.lastLine
                let line := check.tokenLine + (lineFeeds - plain.rest.count '\n')
                check.parse line ('(' :: expression ++ [')', '\n'])
                let some rest := afterConversion? (afterSelfText rest)
                  | throw check.lastLine
                let rest ← match rest with
                  | ':' :: rest => check.formatted isRaw lineFeeds bound (level + 1) rest
                  | rest => pure rest
                match rest with
                | '}' :: rest => check.formatted isRaw lineFeeds bound level rest
                | _ => throw check.lastLine
            | rest => .ok rest

/-- Checks one literal after another. `bytes` says whether those before are byte strings. -/
def checkAll (parse : Nat → List Char → Except Nat Unit) (lastLine : Nat) :
    Option Bool → List Token → Except Nat Unit
  | _, [] => .ok ()
  | bytes, token :: rest => do
      let parts := partsOf token
      if !parts.isFormatted then
        if parts.isBytes then
          if !parts.body.all (·.toNat < 0x80) then throw token.line
          if !parts.isRaw && !bytesEscapesComplete parts.body then throw lastLine
        else if !parts.isRaw && !escapesComplete parts.body then
          throw lastLine
      if bytes.any (· != parts.isBytes) then throw lastLine
      if parts.isFormatted then
        let check : Check := ⟨parse, token.line, lastLine⟩
        let _ ← check.formatted parts.isRaw (parts.body.count '\n') (parts.body.length + 1) 0
          parts.body
      checkAll parse lastLine (some parts.isBytes) rest

end ProviderGen.Source.Literal
