import ProviderGen.Source.Number
import ProviderGen.Source.Token
import ProviderGen.Text.Identifier
import ProviderGen.Text.Printable

/-!
Reading a source text as tokens. Lines end logically where no bracket is open; the indentation of a
logical line becomes tokens that open and close blocks.
-/

namespace ProviderGen.Source

/-- How many brackets may be open at once. -/
def maxBrackets : Nat := 200

/-- How many blocks may be open at once. -/
def maxIndents : Nat := 99

/-- What the reader of tokens has in front of it and has open. `indents` holds, innermost first,
the columns of the open blocks, counted with tabs of eight and with tabs of one. -/
structure Lexer where
  rest : List Char
  line : Nat
  brackets : List (Char × Nat)
  indents : List (Nat × Nat)

namespace Lexer

/-- The line that a token or fault at the current place is on. The text ends with a line feed, and
its end still counts as being on the last line. -/
def here (lexer : Lexer) : Nat :=
  if lexer.rest.isEmpty then lexer.line - 1 else lexer.line

/-- The line of the innermost open bracket. -/
def openLine (lexer : Lexer) : Option Nat :=
  lexer.brackets.head?.map (·.2)

/-- A fault that stands against any error of grammar. -/
def certainFault (lexer : Lexer) : Fault :=
  ⟨lexer.line, true, lexer.openLine⟩

/-- A fault that is reported only when the grammar gets there. -/
def quietFault (lexer : Lexer) : Fault :=
  ⟨lexer.here, false, lexer.openLine⟩

/-- The end of the text where more has to come: an open bracket, or a continued line. -/
def endFault (lexer : Lexer) : Fault :=
  ⟨lexer.openLine.getD (lexer.line - 1), false, lexer.openLine⟩

def token (lexer : Lexer) (kind : TokenKind) (text : List Char) : Token :=
  ⟨kind, String.ofList text, lexer.here, lexer.brackets.length⟩

end Lexer

/-- The width of the indentation of a line, counted with tabs of eight and of one, and what follows.
A backslash at the end of a line joins the next line; the first one fixes the width. -/
structure Indentation where
  column : Nat
  shortColumn : Nat
  lexer : Lexer

/-- The next multiple of a tab width. -/
def nextStop (width column : Nat) : Nat :=
  (column / width + 1) * width

/-- Reads the indentation at the start of a line. `fixed` is the column of the first backslash. -/
def readIndentation (lexer : Lexer) (column shortColumn fixed : Nat) :
    List Char → Except Fault Indentation
  | ' ' :: rest => readIndentation lexer (column + 1) (shortColumn + 1) fixed rest
  | '\t' :: rest => readIndentation lexer (nextStop 8 column) (nextStop 1 shortColumn) fixed rest
  -- A form feed starts the count anew.
  | '\x0c' :: rest => readIndentation lexer 0 0 fixed rest
  | '\\' :: '\n' :: rest =>
      let lexer := { lexer with line := lexer.line + 1 }
      if rest.isEmpty then
        .error { lexer with rest := [] }.endFault
      else
        readIndentation lexer column shortColumn (if fixed = 0 then column else fixed) rest
  | '\\' :: rest => .error { lexer with rest := '\\' :: rest }.quietFault
  | rest =>
      let (column, shortColumn) := if fixed = 0 then (column, shortColumn) else (fixed, fixed)
      .ok ⟨column, shortColumn, { lexer with rest := rest }⟩

/-- The tokens that a logical line's indentation stands for, and the open blocks after it. -/
def blockTokens (found : Indentation) : Except Fault (List Token × Lexer) :=
  let lexer := found.lexer
  let current := lexer.indents.headD (0, 0)
  if found.column = current.1 then
    if found.shortColumn = current.2 then .ok ([], lexer) else .error lexer.quietFault
  else if current.1 < found.column then
    -- A deeper line has to be deeper whichever way tabs are counted.
    if lexer.indents.length < maxIndents && current.2 < found.shortColumn then
      let indents := (found.column, found.shortColumn) :: lexer.indents
      .ok ([lexer.token .indent []], { lexer with indents := indents })
    else
      .error lexer.quietFault
  else
    let kept := lexer.indents.dropWhile fun block => found.column < block.1
    if kept.headD (0, 0) = (found.column, found.shortColumn) then
      let closed := lexer.indents.length - kept.length
      .ok (List.replicate closed (lexer.token .dedent []), { lexer with indents := kept })
    else
      .error lexer.quietFault

def threeCharacterOperators : List String := ["**=", "//=", ">>=", "<<=", "..."]

def twoCharacterOperators : List String :=
  ["!=", "%=", "&=", "**", "*=", "+=", "-=", "->", "//", "/=", ":=", "<<", "<=", "<>", "==", ">=",
   ">>", "@=", "^=", "|="]

/-- How many characters the operator at the start of a text has. -/
def operatorLength (text : List Char) : Nat :=
  if threeCharacterOperators.contains (String.ofList (text.take 3)) then 3
  else if twoCharacterOperators.contains (String.ofList (text.take 2)) then 2
  else 1

/-- The bracket that closes an open one. -/
def closing : Char → Char
  | '(' => ')'
  | '[' => ']'
  | '{' => '}'
  | c => c

/-- The letters that may stand before the opening quote of a string, in small letters. -/
def stringMarks : List String := ["", "r", "u", "b", "f", "br", "rb", "fr", "rf"]

/-- How many letters stand before the opening quote, if a string starts here. -/
def stringMarkLength? (text : List Char) : Option Nat :=
  let letters := text.takeWhile Char.isAlpha
  let opened := (text.drop letters.length).head?.any fun c => c == '"' || c == '\''
  if opened && stringMarks.contains (String.ofList (letters.map Char.toLower)) then
    some letters.length
  else
    none

/-- The length of a string whose body starts here, after the characters counted so far. `seen`
counts the quotes found in a row. -/
def stringEnd? (quote : Char) (size seen count : Nat) : List Char → Option Nat
  | [] => none
  | c :: rest =>
      if c == '\n' && size == 1 then
        none
      else if c == quote then
        if seen + 1 = size then some (count + 1)
        else stringEnd? quote size (seen + 1) (count + 1) rest
      else if c == '\\' then
        match rest with
        | [] => none
        | _ :: more => stringEnd? quote size 0 (count + 2) more
      else
        stringEnd? quote size 0 (count + 1) rest

/-- How many characters the string has that starts with a quote here. -/
def stringLength? (text : List Char) : Option Nat :=
  match text with
  | q :: r :: s :: rest =>
      if r == q && s == q then stringEnd? q 3 0 3 rest
      else if r == q then some 2
      else stringEnd? q 1 0 1 (r :: s :: rest)
  | [q, r] => if r == q then some 2 else none
  | _ => none

/-- The token of the given length at the current place, and what follows. -/
def Lexer.takeToken (lexer : Lexer) (kind : TokenKind) (length : Nat) : Token × Lexer :=
  let text := lexer.rest.take length
  let rest := lexer.rest.drop length
  (lexer.token kind text, { lexer with rest := rest, line := lexer.line + text.count '\n' })

/-- The word at the current place: a name or a keyword. -/
def Lexer.takeWord (lexer : Lexer) : Except Fault (Token × Lexer) :=
  let word := lexer.rest.takeWhile Number.goesOnInName
  if word.all (·.toNat < 0x80) || Text.isIdentifier word then
    let kind := if Text.reservedWords.contains (String.ofList word) then .keyword else .name
    .ok (lexer.takeToken kind word.length)
  else
    .error lexer.certainFault

/-- The operator at the current place. Brackets are counted, and have to match. -/
def Lexer.takeOperator (lexer : Lexer) : Except Fault (Token × Lexer) :=
  match lexer.rest with
  | [] => .error lexer.endFault
  | c :: rest =>
      if c == '(' || c == '[' || c == '{' then
        if lexer.brackets.length < maxBrackets then
          let brackets := (c, lexer.line) :: lexer.brackets
          .ok ({ lexer with brackets := brackets }.takeToken .operator 1)
        else
          .error lexer.certainFault
      else if c == ')' || c == ']' || c == '}' then
        match lexer.brackets with
        | [] => .error lexer.certainFault
        | (opened, _) :: brackets =>
            if closing opened = c then
              .ok ({ lexer with brackets := brackets }.takeToken .operator 1)
            else
              .error lexer.certainFault
      else
        let length := operatorLength (c :: rest)
        if length = 1 && !Text.isPrintable c then .error lexer.certainFault
        else .ok (lexer.takeToken .operator length)

/-- The token at the current place, within a line and past blanks and comments. -/
def Lexer.takeNext (lexer : Lexer) : Except Fault (Token × Lexer) :=
  match stringMarkLength? lexer.rest with
  | some mark =>
      match stringLength? (lexer.rest.drop mark) with
      | some length => .ok (lexer.takeToken .string (mark + length))
      | none => .error lexer.certainFault
  | none =>
      match lexer.rest with
      | [] => .error lexer.endFault
      | c :: rest =>
          if c.isDigit || (c == '.' && rest.head?.any Char.isDigit) then
            match Number.read lexer.rest with
            | some (length, _) => .ok (lexer.takeToken .number length)
            | none => .error lexer.certainFault
          else if Number.goesOnInName c then
            lexer.takeWord
          else
            lexer.takeOperator

def isLineBlank (c : Char) : Bool :=
  c == ' ' || c == '\t' || c == '\x0c'

/-- The lexer past blanks and past a comment. -/
def Lexer.skipBlanks (lexer : Lexer) : Lexer :=
  let rest := lexer.rest.dropWhile isLineBlank
  let rest := if rest.head? = some '#' then rest.dropWhile (· != '\n') else rest
  { lexer with rest := rest }

/-- The tokens from the current place on, after those found so far. `fresh` says that the place is
the start of a line. The bound is on the number of steps. -/
def Lexer.run : Nat → Bool → Lexer → List Token → TokenStream
  | 0, _, lexer, found => ⟨found.reverse, some lexer.certainFault⟩
  | bound + 1, true, lexer, found =>
      match readIndentation lexer 0 0 0 lexer.rest with
      | .error fault => ⟨found.reverse, some fault⟩
      | .ok indentation =>
          let lexer := indentation.lexer
          match lexer.rest with
          | '\n' :: rest =>
              Lexer.run bound true { lexer with rest := rest, line := lexer.line + 1 } found
          | '#' :: rest =>
              let rest := (rest.dropWhile (· != '\n')).drop 1
              Lexer.run bound true { lexer with rest := rest, line := lexer.line + 1 } found
          | _ =>
              if lexer.brackets.isEmpty then
                match blockTokens indentation with
                | .error fault => ⟨found.reverse, some fault⟩
                | .ok (tokens, lexer) => Lexer.run bound false lexer (tokens.reverse ++ found)
              else
                -- Within brackets the indentation of a line means nothing.
                Lexer.run bound false lexer found
  | bound + 1, false, lexer, found =>
      let lexer := lexer.skipBlanks
      match lexer.rest with
      | [] =>
          if lexer.brackets.isEmpty then ⟨(lexer.token .finish [] :: found).reverse, none⟩
          else ⟨found.reverse, some lexer.endFault⟩
      | '\n' :: rest =>
          let next := { lexer with rest := rest, line := lexer.line + 1 }
          if lexer.brackets.isEmpty then
            Lexer.run bound true next (lexer.token .newline [] :: found)
          else
            Lexer.run bound true next found
      | '\\' :: '\n' :: rest =>
          let next := { lexer with rest := rest, line := lexer.line + 1 }
          if rest.isEmpty then ⟨found.reverse, some next.endFault⟩
          else Lexer.run bound false next found
      | '\\' :: _ => ⟨found.reverse, some lexer.quietFault⟩
      | _ =>
          match lexer.takeNext with
          | .error fault => ⟨found.reverse, some fault⟩
          | .ok (token, lexer) => Lexer.run bound false lexer (token :: found)

/-- The tokens of a text whose first line has the given number. -/
def tokensFrom (line : Nat) (text : List Char) : TokenStream :=
  Lexer.run (2 * text.length + 2) true ⟨text, line, [], []⟩ []

end ProviderGen.Source
