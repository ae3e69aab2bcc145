import ProviderGen.Text.Utf8
import ProviderGen.Yaml.Error
import ProviderGen.Yaml.Token

/-!
Reading scalars: plain ones, ones in quotes, and blocks of lines. Inside a scalar that goes over
several lines, a single line break counts as a space, and of several the first is left out.
-/

namespace ProviderGen.Yaml

/-- A text that was read, and the place after it. -/
abbrev Read := Except DocumentError (List Char × Cursor)

/-- The text that a line break and the empty lines after it stand for. -/
def folded (lineBreak breaks : List Char) : List Char :=
  if lineBreak ≠ ['\n'] then lineBreak ++ breaks
  else if breaks = [] then [' ']
  else breaks

namespace QuotedScalar

/-- The characters that stand for others after a backslash. -/
def replacements : List (Char × Char) :=
  [('0', '\x00'), ('a', '\x07'), ('b', '\x08'), ('t', '\t'), ('\t', '\t'), ('n', '\n'),
    ('v', '\x0b'), ('f', '\x0c'), ('r', '\r'), ('e', '\x1b'), (' ', ' '), ('"', '"'),
    ('\\', '\\'), ('/', '/'), ('N', '\u0085'), ('_', '\u00a0'), ('L', '\u2028'), ('P', '\u2029')]

/-- How many hexadecimal digits follow a letter after a backslash. -/
def codeLength? : Char → Option Nat
  | 'x' => some 2
  | 'u' => some 4
  | 'U' => some 8
  | _ => none

/-- The line breaks ahead, with the gaps around them. No document may start or end there. -/
def breaks : Nat → Cursor → Read
  | 0, _ => .error .malformed
  | bound + 1, cursor =>
      if cursor.atDocumentMark then
        .error .malformed
      else
        let cursor := cursor.skipAll isGap
        match cursor.lineBreak with
        | ([], _) => .ok ([], cursor)
        | (text, cursor) => do
            let (more, cursor) ← breaks bound cursor
            return (text ++ more, cursor)

/-- The gap ahead, or what a line break with the gaps around it stands for. -/
def gap (bound : Nat) (cursor : Cursor) : Read :=
  let blanks := cursor.span isGap
  let cursor := cursor.skipAll isGap
  if cursor.ahead = [] then
    .error .malformed
  else
    match cursor.lineBreak with
    | ([], _) => .ok (blanks, cursor)
    | (text, cursor) => do
        let (more, cursor) ← breaks bound cursor
        return (folded text more, cursor)

/-- The character of a number. Half of a surrogate pair is no character of its own. -/
def characterOf (code : Nat) : Except DocumentError Char :=
  if h : code.isValidChar then .ok (Char.ofNatAux code h)
  else if code < 0x110000 then .error .halfCharacter
  else if code < 0x80000000 then .error .noCharacter
  else .error .hugeCharacter

/-- What stands after a backslash. -/
def escape (bound : Nat) (cursor : Cursor) : Read :=
  match cursor.peek 0 with
  | none => .error .malformed
  | some c =>
      match replacements.lookup c, codeLength? c with
      | some replacement, _ => .ok ([replacement], cursor.next)
      | none, some length =>
          let digits := cursor.next.ahead.take length
          if digits.length = length && digits.all (Number.isDigitOf 16) then do
            return ([← characterOf (Number.valueOf 16 digits)], cursor.next.skip length)
          else
            .error .malformed
      | none, none =>
          match cursor.lineBreak with
          | ([], _) => .error .malformed
          | (_, cursor) => breaks bound cursor

def rest (quote : Char) : Nat → Cursor → Read
  | 0, _ => .error .malformed
  | bound + 1, cursor =>
      let follow := fun (part : Read) => do
        let (text, cursor) ← part
        let (more, cursor) ← rest quote bound cursor
        return (text ++ more, cursor)
      match cursor.peek 0 with
      | none => .error .malformed
      | some c =>
          if isGap c || isBreak c then
            follow (gap bound cursor)
          else if c == quote then
            if quote == '\'' && cursor.peek 1 = some quote then
              follow (.ok ([quote], cursor.skip 2))
            else
              .ok ([], cursor.next)
          else if quote == '"' && c == '\\' then
            follow (escape bound cursor.next)
          else
            follow (.ok ([c], cursor.next))

end QuotedScalar

namespace PlainScalar

/-- Whether a plain scalar in brackets ends before a character. -/
def endsInFlow (c : Char) : Bool :=
  c == ',' || c == '[' || c == ']' || c == '{' || c == '}'

/-- Whether a plain scalar ends at the start of a text. -/
def ends (flow : Bool) : List Char → Bool
  | [] => true
  | c :: rest =>
      isGap c || isBreak c || (flow && (endsInFlow c || c == '?')) ||
        (c == ':' && rest.head?.all fun c => isGap c || isBreak c || (flow && endsInFlow c))

/-- The characters of a plain scalar up to the next gap. -/
def run (flow : Bool) : List Char → List Char
  | [] => []
  | c :: rest => if ends flow (c :: rest) then [] else c :: run flow rest

/-- The lines ahead that hold nothing but spaces; none where a document starts or ends. -/
def emptyLines : Nat → Cursor → Option (List Char) × Cursor
  | 0, cursor => (some [], cursor)
  | bound + 1, cursor =>
      if cursor.peek 0 = some ' ' then
        emptyLines bound cursor.next
      else
        match cursor.lineBreak with
        | ([], _) => (some [], cursor)
        | (text, cursor) =>
            if cursor.atDocumentMark then (none, cursor)
            else
              let (more, cursor) := emptyLines bound cursor
              (more.map (text ++ ·), cursor)

/-- What the spaces and line breaks ahead stand for, and whether there is a line break. -/
def gap (bound : Nat) (cursor : Cursor) : List Char × Bool × Cursor :=
  let blanks := cursor.span (· == ' ')
  let cursor := cursor.skipAll (· == ' ')
  match cursor.lineBreak with
  | ([], _) => (blanks, false, cursor)
  | (text, cursor) =>
      if cursor.atDocumentMark then
        ([], true, cursor)
      else
        match emptyLines bound cursor with
        | (none, cursor) => ([], true, cursor)
        | (some breaks, cursor) => (folded text breaks, true, cursor)

/-- The rest of a plain scalar after a gap, and whether a line break comes last. Outside brackets
its lines start at a column at least. -/
def rest (flow : Bool) (column : Int) :
    Nat → List Char → Bool → Cursor → List Char × Bool × Cursor
  | 0, _, broken, cursor => ([], broken, cursor)
  | bound + 1, blanks, broken, cursor =>
      if cursor.peek 0 = some '#' then
        ([], broken, cursor)
      else
        match run flow cursor.ahead with
        | [] => ([], broken, cursor)
        | text =>
            let (gap, broken, cursor) := gap bound (cursor.skip text.length)
            let stops := gap = [] || cursor.peek 0 = some '#' || (!flow && cursor.column < column)
            if stops then
              (blanks ++ text, broken, cursor)
            else
              let (more, broken, cursor) := rest flow column bound gap broken cursor
              (blanks ++ text ++ more, broken, cursor)

end PlainScalar

namespace BlockScalar

/-- Which line breaks at the end of a block are kept: one, none, or all. -/
inductive Chomping
  | clip
  | strip
  | keep
  deriving DecidableEq, Repr

/-- The chomping that a sign stands for. -/
def chomping? : Option Char → Option Chomping
  | some '+' => some .keep
  | some '-' => some .strip
  | _ => none

/-- The indentation that a digit stands for. -/
def indentation? (c : Option Char) : Option Nat :=
  c.bind fun c => if Number.isDigit c then Number.digitValue? c else none

/-- The header of a block: its chomping and its indentation. -/
def header (cursor : Cursor) :
    Except DocumentError (Chomping × Option Nat × Cursor) :=
  let (chomping, indentation, cursor) :=
    match chomping? (cursor.peek 0), indentation? (cursor.peek 0) with
    | some chomping, _ =>
        match indentation? (cursor.peek 1) with
        | some digit => (chomping, some digit, cursor.skip 2)
        | none => (chomping, none, cursor.next)
    | none, some digit =>
        match chomping? (cursor.peek 1) with
        | some chomping => (chomping, some digit, cursor.skip 2)
        | none => (.clip, some digit, cursor.next)
    | none, none => (.clip, none, cursor)
  let after := cursor.skipComment
  if indentation = some 0 || !cursor.spacedAt 0 || !after.breaksAt 0 then
    .error .malformed
  else
    .ok (chomping, indentation, after.lineBreak.2)

/-- The empty lines at the start of a block, and the deepest column among them and the first line
that is not empty. -/
def leading : Nat → Nat → Cursor → List Char × Nat × Cursor
  | 0, deepest, cursor => ([], deepest, cursor)
  | bound + 1, deepest, cursor =>
      if cursor.peek 0 = some ' ' then
        leading bound (max deepest cursor.next.column) cursor.next
      else
        match cursor.lineBreak with
        | ([], _) => ([], deepest, cursor)
        | (text, cursor) =>
            let (more, deepest, cursor) := leading bound deepest cursor
            (text ++ more, deepest, cursor)

/-- The place after spaces, up to a column. -/
def indented (column : Nat) : Nat → Cursor → Cursor
  | 0, cursor => cursor
  | bound + 1, cursor =>
      if cursor.column < column && cursor.peek 0 = some ' ' then
        indented column bound cursor.next
      else
        cursor

/-- The empty lines ahead; spaces up to a column do not count. -/
def emptyLines (column : Nat) : Nat → Cursor → List Char × Cursor
  | 0, cursor => ([], cursor)
  | bound + 1, cursor =>
      let cursor := indented column column cursor
      match cursor.lineBreak with
      | ([], _) => ([], cursor)
      | (text, cursor) =>
          let (more, cursor) := emptyLines column bound cursor
          (text ++ more, cursor)

/-- The lines of a block, after the empty lines in front of the first. -/
def lines (fold : Bool) (chomping : Chomping) (column : Nat) :
    Nat → List Char → Cursor → List Char × Cursor
  | 0, _, cursor => ([], cursor)
  | bound + 1, blanks, cursor =>
      let startsBlank := fun (cursor : Cursor) => (cursor.peek 0).any isGap
      let line := cursor.span fun c => !isBreak c
      let (text, after) := (cursor.skipAll fun c => !isBreak c).lineBreak
      let (breaks, after) := emptyLines column bound after
      if after.column = column && after.ahead ≠ [] then
        let joint :=
          if fold && text = ['\n'] && !startsBlank cursor && !startsBlank after then
            (if breaks = [] then [' '] else [])
          else
            text
        let (more, after) := lines fold chomping column bound breaks after
        (blanks ++ line ++ joint ++ more, after)
      else
        let tail := match chomping with
          | .strip => []
          | .clip => text
          | .keep => text ++ breaks
        (blanks ++ line ++ tail, after)

/-- A block of lines that are indented more than what is around them. -/
def read (fold : Bool) (indent : Int) (bound : Nat) (cursor : Cursor) : Read := do
  let (chomping, indentation, cursor) ← header cursor
  let least := (max (indent + 1) 1).toNat
  let (column, blanks, cursor) :=
    match indentation with
    | none =>
        let (blanks, deepest, cursor) := leading bound 0 cursor
        (max least deepest, blanks, cursor)
    | some indentation =>
        let column := least + indentation - 1
        let (blanks, cursor) := emptyLines column bound cursor
        (column, blanks, cursor)
  if cursor.column = column && cursor.ahead ≠ [] then
    return lines fold chomping column bound blanks cursor
  else
    return (if chomping = .keep then blanks else [], cursor)

end BlockScalar

end ProviderGen.Yaml
