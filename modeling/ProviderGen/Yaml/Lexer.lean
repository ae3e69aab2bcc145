import ProviderGen.Yaml.Scalar

/-!
The tokens of a document.

Indentation outside brackets becomes tokens of its own. That something is the key of a mapping shows
only at the colon after it; the place where each possible key started is therefore kept.
-/

namespace ProviderGen.Yaml

/-- Something that may turn out to be a key: how many tokens come before it, whether it must be a
key, and its place. -/
structure PossibleKey where
  number : Nat
  required : Bool
  index : Nat
  line : Nat
  column : Nat

/-- The tokens read so far, in reverse, and what the reading of more depends on. The possible keys
are kept for each depth of brackets. -/
structure Lexer where
  cursor : Cursor
  tokens : List Token
  depth : Nat
  indent : Int
  indents : List Int
  keyAllowed : Bool
  keys : List (Nat × PossibleKey)
  done : Bool

namespace Lexer

def maxKeyLength : Nat := 1024

def start (text : List Char) : Lexer where
  cursor := .start text
  tokens := []
  depth := 0
  indent := -1
  indents := []
  keyAllowed := true
  keys := []
  done := false

def push (lexer : Lexer) (token : Token) : Lexer :=
  { lexer with tokens := token :: lexer.tokens }

/-- Adds a token after the first ones, of which the number is given. -/
def insert (lexer : Lexer) (number : Nat) (token : Token) : Lexer :=
  let later := lexer.tokens.length - number
  { lexer with tokens := lexer.tokens.take later ++ token :: lexer.tokens.drop later }

/-- Moves on by some characters. -/
def skip (lexer : Lexer) (count : Nat) : Lexer :=
  { lexer with cursor := lexer.cursor.skip count }

/-- Whether the reading is outside all brackets. -/
def inBlock (lexer : Lexer) : Bool := lexer.depth = 0

/-- The column of the next character. -/
def column (lexer : Lexer) : Int := lexer.cursor.column

/-- Gives up the possible keys that are too far behind. -/
def dropOldKeys (lexer : Lexer) : Except DocumentError Lexer :=
  let old := fun (entry : Nat × PossibleKey) =>
    entry.2.line ≠ lexer.cursor.line || maxKeyLength < lexer.cursor.index - entry.2.index
  if lexer.keys.any fun entry => old entry && entry.2.required then .error .malformed
  else .ok { lexer with keys := lexer.keys.filter fun entry => !old entry }

/-- Gives up the possible key at the current depth. -/
def dropKey (lexer : Lexer) : Except DocumentError Lexer :=
  if (lexer.keys.lookup lexer.depth).any (·.required) then .error .malformed
  else .ok { lexer with keys := lexer.keys.filter (·.1 ≠ lexer.depth) }

/-- Notes that a key may start here. -/
def noteKey (lexer : Lexer) : Except DocumentError Lexer :=
  if lexer.keyAllowed then do
    let required := lexer.inBlock && lexer.indent = lexer.column
    let cursor := lexer.cursor
    let key := ⟨lexer.tokens.length, required, cursor.index, cursor.line, cursor.column⟩
    let lexer ← lexer.dropKey
    return { lexer with keys := (lexer.depth, key) :: lexer.keys }
  else
    return lexer

/-- Ends the blocks that are indented more than a column. The list holds the indentations around
the current one. -/
def unwindTo (column : Int) : List Int → Lexer → Lexer
  | [], lexer => lexer
  | outer :: indents, lexer =>
      if column < lexer.indent then
        unwindTo column indents
          { lexer.push .blockEnd with indent := outer, indents := indents }
      else
        lexer

/-- Ends the blocks that are indented more than a column. In brackets there are none. -/
def unwind (lexer : Lexer) (column : Int) : Lexer :=
  if lexer.inBlock then unwindTo column lexer.indents lexer else lexer

/-- Starts a block at a column, with a token after the first ones, unless the column is that of the
block around. -/
def startBlock (lexer : Lexer) (number : Nat) (column : Int) (token : Token) : Lexer :=
  if lexer.indent < column then
    { lexer.insert number token with indent := column, indents := lexer.indent :: lexer.indents }
  else
    lexer

/-- Starts a block here, where one is allowed, for an entry that begins one. -/
def startEntry (lexer : Lexer) (token : Token) : Except DocumentError Lexer :=
  if !lexer.inBlock then .ok lexer
  else if !lexer.keyAllowed then .error .malformed
  else .ok (lexer.startBlock lexer.tokens.length lexer.column token)

/-- Moves to the next token, past spaces, comments and line ends. The number bounds the lines. -/
def skipBlank : Nat → Lexer → Lexer
  | 0, lexer => lexer
  | bound + 1, lexer =>
      let cursor := lexer.cursor.skipComment
      match cursor.lineBreak with
      | ([], _) => { lexer with cursor := cursor }
      | (_, cursor) =>
          skipBlank bound
            { lexer with cursor := cursor, keyAllowed := lexer.keyAllowed || lexer.inBlock }

def isNameCharacter (c : Char) : Bool :=
  c.isAlphanum || c == '-' || c == '_'

def isAddressCharacter (c : Char) : Bool :=
  c.isAlphanum || "-;/?:@&=+$,_.!~*'()[]%".toList.contains c

/-- The bytes that percent signs ahead stand for, and the place after them. -/
def percentBytes : Nat → Cursor → Except DocumentError (List UInt8 × Cursor)
  | 0, cursor => .ok ([], cursor)
  | bound + 1, cursor =>
      if cursor.peek 0 = some '%' then
        let digits := cursor.next.ahead.take 2
        if digits.length = 2 && digits.all (Number.isDigitOf 16) then do
          let (bytes, after) ← percentBytes bound (cursor.skip 3)
          return (UInt8.ofNat (Number.valueOf 16 digits) :: bytes, after)
        else
          .error .malformed
      else
        .ok ([], cursor)

def addressRest : Nat → Cursor → Read
  | 0, cursor => .ok ([], cursor)
  | bound + 1, cursor =>
      match cursor.peek 0 with
      | none => .ok ([], cursor)
      | some c =>
          if c == '%' then do
            let (bytes, cursor) ← percentBytes bound cursor
            match Text.decodeStrictly bytes with
            | .error _ => .error .malformed
            | .ok text =>
                let (more, cursor) ← addressRest bound cursor
                return (text ++ more, cursor)
          else if isAddressCharacter c then do
            let (more, cursor) ← addressRest bound cursor.next
            return (c :: more, cursor)
          else
            .ok ([], cursor)

/-- The address of a tag, which is not empty. -/
def address (cursor : Cursor) : Read :=
  if (cursor.peek 0).any isAddressCharacter then addressRest (cursor.ahead.length + 1) cursor
  else .error .malformed

/-- The handle of a tag: an exclamation mark, or a name between two of them. -/
def handle (cursor : Cursor) : Read :=
  if cursor.peek 0 ≠ some '!' then
    .error .malformed
  else if cursor.peek 1 = some ' ' then
    .ok (['!'], cursor.next)
  else
    let name := cursor.next.span isNameCharacter
    if cursor.peek (name.length + 1) = some '!' then
      .ok ('!' :: name ++ ['!'], cursor.skip (name.length + 2))
    else
      .error .malformed

def readTag (cursor : Cursor) : Except DocumentError (Token × Cursor) := do
  let (token, cursor) ←
    if cursor.peek 1 = some '<' then do
      let (suffix, cursor) ← address (cursor.skip 2)
      if cursor.peek 0 = some '>' then
        pure (Token.tag none (String.ofList suffix), cursor.next)
      else
        throw .malformed
    else if cursor.separatedAt 1 then
      pure (Token.tag none "!", cursor.next)
    else do
      let text := cursor.next.span fun c => !isBreak c && c ≠ ' '
      let (name, cursor) ←
        if text.contains '!' then handle cursor else pure (['!'], cursor.next)
      let (suffix, cursor) ← address cursor
      pure (Token.tag (some (String.ofList name)) (String.ofList suffix), cursor)
  if cursor.spacedAt 0 then
    return (token, cursor)
  else
    throw .malformed

/-- The name of an anchor or an alias. -/
def readName (cursor : Cursor) : Except DocumentError (String × Cursor) :=
  let name := cursor.next.span isNameCharacter
  let after := cursor.next.skip name.length
  if name ≠ [] && (after.peek 0).all fun c => isBreak c || isGap c || "?:,]\x7d%@`".toList.contains c
  then
    .ok (String.ofList name, after)
  else
    .error .malformed

/-- The number of a version, and the place after it. -/
def versionNumber (cursor : Cursor) : Except DocumentError (Nat × Cursor) :=
  match cursor.span Number.isDigit with
  | [] => .error .malformed
  | digits => .ok (Number.valueOf 10 digits, cursor.skip digits.length)

/-- What a directive says, after its name. -/
def directiveValue (name : String) (cursor : Cursor) :
    Except DocumentError (Directive × Cursor) := do
  let spaces := fun (cursor : Cursor) => cursor.skipAll (· == ' ')
  if name = "YAML" then
    let (major, cursor) ← versionNumber (spaces cursor)
    if cursor.peek 0 ≠ some '.' then
      throw .malformed
    let (_, cursor) ← versionNumber cursor.next
    if !cursor.spacedAt 0 then
      throw .malformed
    return (.version major, cursor)
  else if name = "TAG" then
    let (handle, cursor) ← handle (spaces cursor)
    if cursor.peek 0 ≠ some ' ' then
      throw .malformed
    let (start, cursor) ← address (spaces cursor)
    if !cursor.spacedAt 0 then
      throw .malformed
    return (.tagHandle (String.ofList handle) (String.ofList start), cursor)
  else
    return (.unknown, cursor.skipAll fun c => !isBreak c)

/-- A directive, and the place after its line. -/
def readDirective (cursor : Cursor) : Except DocumentError (Token × Cursor) := do
  let name := cursor.next.span isNameCharacter
  let cursor := cursor.next.skip name.length
  if name = [] || !cursor.spacedAt 0 then
    throw .malformed
  let (directive, cursor) ← directiveValue (String.ofList name) cursor
  let cursor := cursor.skipComment
  if !cursor.breaksAt 0 then
    throw .malformed
  return (.directive directive, cursor.lineBreak.2)

/-- Ends all blocks before something that stands between documents. -/
def leaveDocument (lexer : Lexer) : Except DocumentError Lexer := do
  let lexer ← (lexer.unwind (-1)).dropKey
  return { lexer with keyAllowed := false }

/-- Reads something that may be a key, after which no key may follow at once. -/
def readSimple (lexer : Lexer) (read : Cursor → Except DocumentError (Token × Cursor)) :
    Except DocumentError Lexer := do
  let lexer ← lexer.noteKey
  let (token, cursor) ← read lexer.cursor
  return { lexer.push token with cursor := cursor, keyAllowed := false }

def readOpening (lexer : Lexer) (token : Token) : Except DocumentError Lexer := do
  let lexer ← lexer.noteKey
  return { (lexer.push token).skip 1 with depth := lexer.depth + 1, keyAllowed := true }

def readClosing (lexer : Lexer) (token : Token) : Except DocumentError Lexer := do
  let lexer ← lexer.dropKey
  return { (lexer.push token).skip 1 with depth := lexer.depth - 1, keyAllowed := false }

/-- Reads the colon after a key, or one that stands for itself. -/
def readValue (lexer : Lexer) : Except DocumentError Lexer := do
  let lexer ←
    match lexer.keys.lookup lexer.depth with
    | some key =>
        let known := { lexer with keys := lexer.keys.filter (·.1 ≠ lexer.depth) }
        let marked := known.insert key.number .key
        let lexer :=
          if lexer.inBlock then marked.startBlock key.number key.column .blockMappingStart
          else marked
        pure { lexer with keyAllowed := false }
    | none => do
        let lexer ← lexer.startEntry .blockMappingStart
        { lexer with keyAllowed := lexer.inBlock }.dropKey
  return (lexer.push .value).skip 1

def readQuoted (quote : Char) (cursor : Cursor) : Except DocumentError (Token × Cursor) := do
  let (text, cursor) ← QuotedScalar.rest quote (cursor.ahead.length + 1) cursor.next
  return (.scalar (String.ofList text) false, cursor)

def readBlock (lexer : Lexer) (fold : Bool) : Except DocumentError Lexer := do
  let lexer ← { lexer with keyAllowed := true }.dropKey
  let (text, cursor) ←
    BlockScalar.read fold lexer.indent (lexer.cursor.ahead.length + 1) lexer.cursor.next
  return { lexer.push (.scalar (String.ofList text) false) with cursor := cursor }

/-- Whether a plain scalar starts here. -/
def startsPlain (lexer : Lexer) : Bool :=
  match lexer.cursor.peek 0 with
  | none => false
  | some c =>
      if "-?:,[]\x7b\x7d#&*!|>'\"%@`".toList.contains c then
        !lexer.cursor.separatedAt 1 && (c == '-' || (lexer.inBlock && (c == '?' || c == ':')))
      else
        !isGap c && !isBreak c

/-- Reads a plain scalar. A key may follow if it ends with its line. -/
def readPlain (lexer : Lexer) : Except DocumentError Lexer := do
  let lexer ← lexer.noteKey
  let (text, broken, cursor) :=
    PlainScalar.rest (!lexer.inBlock) (lexer.indent + 1) (lexer.cursor.ahead.length + 1) [] false
      lexer.cursor
  return { lexer.push (.scalar (String.ofList text) true) with
    cursor := cursor, keyAllowed := broken }

/-- Reads what starts with a character. -/
def readFrom (lexer : Lexer) (c : Char) : Except DocumentError Lexer :=
  let cursor := lexer.cursor
  let entry := fun (token : Token) (next : Bool) (lexer : Lexer) => do
    let lexer ← { lexer with keyAllowed := next }.dropKey
    return (lexer.push token).skip 1
  if c == '%' && cursor.column = 0 then do
    let lexer ← lexer.leaveDocument
    let (token, cursor) ← readDirective lexer.cursor
    return { lexer.push token with cursor := cursor }
  else if cursor.column = 0 && cursor.marksDocument '-' then do
    return ((← lexer.leaveDocument).push .documentStart).skip 3
  else if cursor.column = 0 && cursor.marksDocument '.' then do
    return ((← lexer.leaveDocument).push .documentEnd).skip 3
  else if c == '[' then lexer.readOpening .flowSequenceStart
  else if c == '{' then lexer.readOpening .flowMappingStart
  else if c == ']' then lexer.readClosing .flowSequenceEnd
  else if c == '}' then lexer.readClosing .flowMappingEnd
  else if c == ',' then entry .flowEntry true lexer
  else if c == '-' && cursor.separatedAt 1 then do
    entry .blockEntry true (← lexer.startEntry .blockSequenceStart)
  else if c == '?' && (!lexer.inBlock || cursor.separatedAt 1) then do
    entry .key lexer.inBlock (← lexer.startEntry .blockMappingStart)
  else if c == ':' && (!lexer.inBlock || cursor.separatedAt 1) then lexer.readValue
  else if c == '*' then lexer.readSimple fun cursor => do
    let (name, cursor) ← readName cursor
    return (.alias name, cursor)
  else if c == '&' then lexer.readSimple fun cursor => do
    let (name, cursor) ← readName cursor
    return (.anchor name, cursor)
  else if c == '!' then lexer.readSimple readTag
  else if c == '|' && lexer.inBlock then lexer.readBlock false
  else if c == '>' && lexer.inBlock then lexer.readBlock true
  else if c == '\'' || c == '"' then lexer.readSimple (readQuoted c)
  else if lexer.startsPlain then lexer.readPlain
  else .error .malformed

/-- Reads the next token, and those that come with it. -/
def step (lexer : Lexer) : Except DocumentError Lexer := do
  let cursor := lexer.cursor
  let marked := cursor.index = 0 && cursor.peek 0 = some byteOrderMark
  let lexer := if marked then lexer.skip 1 else lexer
  let lexer ← (lexer.skipBlank (lexer.cursor.ahead.length + 1)).dropOldKeys
  let lexer := lexer.unwind lexer.column
  match lexer.cursor.peek 0 with
  | none => do
      let lexer ← lexer.leaveDocument
      return { lexer.push .streamEnd with keys := [], done := true }
  | some c => lexer.readFrom c

/-- Reads tokens to the end, or up to the first error. -/
def run : Nat → Lexer → List Token × Option DocumentError
  | 0, lexer => (lexer.tokens.reverse, some .malformed)
  | bound + 1, lexer =>
      match lexer.step with
      | .error error => (lexer.tokens.reverse, some error)
      | .ok next => if next.done then (next.tokens.reverse, none) else run bound next

end Lexer

/-- The tokens of a text, to its end or up to the first error. -/
def tokens (text : List Char) : List Token × Option DocumentError :=
  Lexer.run (text.length + 2) (Lexer.start text)

end ProviderGen.Yaml
