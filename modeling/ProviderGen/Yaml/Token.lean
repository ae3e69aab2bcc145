namespace ProviderGen.Yaml

/-- What a line that starts with a percent sign says about the document. -/
inductive Directive
  | version (major : Nat)
  | tagHandle (handle start : String)
  | unknown
  deriving DecidableEq, Repr

inductive Token
  | directive (directive : Directive)
  | documentStart
  | documentEnd
  | streamEnd
  | blockSequenceStart
  | blockMappingStart
  | blockEnd
  | flowSequenceStart
  | flowSequenceEnd
  | flowMappingStart
  | flowMappingEnd
  | blockEntry
  | flowEntry
  | key
  | value
  | alias (name : String)
  | anchor (name : String)
  | tag (handle : Option String) (suffix : String)
  | scalar (text : String) (plain : Bool)
  deriving DecidableEq, Repr

/-- Whether a character ends a line. -/
def isBreak (c : Char) : Bool :=
  c == '\n' || c == '\r' || c == '\u0085' || c == '\u2028' || c == '\u2029'

/-- Whether a character is a space or a tab. -/
def isGap (c : Char) : Bool := c == ' ' || c == '\t'

/-- The mark that a text may begin with and that takes no room. -/
def byteOrderMark : Char := '\ufeff'

/-- The place in a text that is being read: the characters ahead, how many are behind, and the line
and the column. -/
structure Cursor where
  ahead : List Char
  index : Nat
  line : Nat
  column : Nat

namespace Cursor

def start (text : List Char) : Cursor := ⟨text, 0, 0, 0⟩

/-- The character at some distance ahead. -/
def peek (cursor : Cursor) (distance : Nat) : Option Char := cursor.ahead[distance]?

/-- The place after the next character. -/
def next (cursor : Cursor) : Cursor :=
  match cursor.ahead with
  | [] => cursor
  | c :: ahead =>
      let index := cursor.index + 1
      if isBreak c && !(c == '\r' && ahead.head? = some '\n') then
        ⟨ahead, index, cursor.line + 1, 0⟩
      else if c == byteOrderMark then
        ⟨ahead, index, cursor.line, cursor.column⟩
      else
        ⟨ahead, index, cursor.line, cursor.column + 1⟩

/-- The place after some characters. -/
def skip (cursor : Cursor) : Nat → Cursor
  | 0 => cursor
  | count + 1 => cursor.next.skip count

/-- The characters ahead that pass a test, up to the first that does not. -/
def span (cursor : Cursor) (test : Char → Bool) : List Char := cursor.ahead.takeWhile test

/-- The place after the characters ahead that pass a test. -/
def skipAll (cursor : Cursor) (test : Char → Bool) : Cursor :=
  cursor.skip (cursor.span test).length

/-- The line break ahead, as it counts in a text, and the place after it. -/
def lineBreak (cursor : Cursor) : List Char × Cursor :=
  match cursor.ahead with
  | '\r' :: '\n' :: _ => (['\n'], cursor.skip 2)
  | c :: _ =>
      if c == '\u2028' || c == '\u2029' then ([c], cursor.next)
      else if isBreak c then (['\n'], cursor.next)
      else ([], cursor)
  | [] => ([], cursor)

/-- Whether the character at a distance ends a line, or the text. -/
def breaksAt (cursor : Cursor) (distance : Nat) : Bool :=
  (cursor.peek distance).all isBreak

/-- Whether the character at a distance is a space or ends a line, or the text. -/
def spacedAt (cursor : Cursor) (distance : Nat) : Bool :=
  (cursor.peek distance).all fun c => isBreak c || c == ' '

/-- Whether the character at a distance is a gap or ends a line, or the text. -/
def separatedAt (cursor : Cursor) (distance : Nat) : Bool :=
  (cursor.peek distance).all fun c => isBreak c || isGap c

/-- Whether a mark of three characters stands ahead by itself. -/
def marksDocument (cursor : Cursor) (mark : Char) : Bool :=
  cursor.ahead.take 3 = [mark, mark, mark] && cursor.separatedAt 3

/-- Whether the start or the end of a document is marked ahead. -/
def atDocumentMark (cursor : Cursor) : Bool :=
  cursor.marksDocument '-' || cursor.marksDocument '.'

/-- The place after spaces and a comment. -/
def skipComment (cursor : Cursor) : Cursor :=
  let cursor := cursor.skipAll (· == ' ')
  if cursor.peek 0 = some '#' then cursor.skipAll fun c => !isBreak c else cursor

end Cursor

end ProviderGen.Yaml
