import ProviderGen.Shell.Arithmetic
import ProviderGen.Shell.Lexer
import ProviderGen.Shell.Machine
import ProviderGen.Shell.Pattern

namespace ProviderGen.Shell

/-- A piece of a word after expansion: text that stays together, text that is cut at blanks, or the
end of a field. -/
inductive Piece
  | fixed (glyphs : List Glyph)
  | loose (text : String)
  | fieldEnd

namespace Piece

def quoted (text : String) : Piece :=
  fixed (text.toList.map (⟨·, true⟩))

def glyphs : Piece → List Glyph
  | fixed glyphs => glyphs
  | loose text => text.toList.map (⟨·, false⟩)
  | fieldEnd => [⟨' ', true⟩]

def textOf (pieces : List Piece) : String :=
  String.ofList ((pieces.flatMap glyphs).map (·.char))

end Piece

def shellNumber : String := "1000"

/-- The value of a variable or of a parameter. -/
def parameter? (name : String) : Work (Option String) := do
  let machine ← get
  match name with
  | "?" => return some (toString machine.status)
  | "$" => return some shellNumber
  | "#" => return some (toString machine.arguments.length)
  | "@" | "*" =>
      return if machine.arguments = [] then none else some (" ".intercalate machine.arguments)
  | "0" => return some machine.name
  | name =>
      match name.toNat? with
      | some number => return machine.arguments[number - 1]?
      | none => Work.valueOf? name

/-- The pieces of a text that an expansion yields. -/
def piecesOf (quoted : Bool) (text : String) : List Piece :=
  if quoted then [.quoted text] else [.loose text]

/-- The pieces of all arguments, each as a field of its own. -/
def argumentPieces (quoted : Bool) (arguments : List String) : List Piece :=
  (arguments.map (piecesOf quoted)).intersperse [.fieldEnd] |>.flatten

/-- A text without a part at its start that a pattern stands for. -/
def withoutStart (longest : Bool) (pattern : List PatternPart) (text : List Char) : List Char :=
  let sizes := List.range (text.length + 1)
  let sizes := if longest then sizes.reverse else sizes
  match sizes.find? fun size => PatternPart.stands pattern (text.take size) with
  | some size => text.drop size
  | none => text

/-- A text without a part at its end that a pattern stands for. -/
def withoutEnding (longest : Bool) (pattern : List PatternPart) (text : List Char) : List Char :=
  let sizes := List.range (text.length + 1)
  let sizes := if longest then sizes else sizes.reverse
  match sizes.find? fun size => PatternPart.stands pattern (text.drop size) with
  | some size => text.take size
  | none => text

/-- Stops a script that cannot go on. -/
def giveUp {α : Type} (message : String) : Work α := do
  Work.complainOfScript message
  throw (.exit 2)

/-- What was read of a script; one that cannot be read stops. -/
def readOrGiveUp {α : Type} (result : Except ScriptError α) : Work α :=
  match result with
  | .ok value => return value
  | .error error => giveUp error.message

/-- The pieces of a word. `substitute` runs a script for its output. -/
def expand (substitute : String → Work String) : Nat → Word → Work (List Piece)
  | 0, _ => throw .unending
  | bound + 1, word => do
      let textOf := fun (text : String) => do
        let word ← readOrGiveUp (documentWord text)
        return Piece.textOf (← expand substitute bound word)
      let patternOf := fun (text : String) => do
        let (word, rest) ← readOrGiveUp (cutWord text.toList)
        let pieces ← expand substitute bound word
        let glyphs := pieces.flatMap Piece.glyphs ++ rest.map (⟨·, true⟩)
        return PatternPart.ofGlyphs 0 glyphs
      let pieces ← word.mapM fun part => do
        match part with
        | .text quoted text => return [.fixed (text.toList.map (⟨·, quoted⟩))]
        | .command quoted script => return piecesOf quoted (← substitute script)
        | .arithmetic quoted expression =>
            let expression ← textOf expression
            let bindings := (← get).bindings
            match Arithmetic.value (bindings.lookup ·) expression with
            | .ok value => return piecesOf quoted (toString value)
            | .error error => giveUp s!"arithmetic expression: {error.message}: \"{expression}\""
        | .variable quoted name use =>
            let value ← parameter? name
            let isGiven := fun whenEmpty => value.isSome && !(whenEmpty && value = some "")
            match use with
            | .value =>
                if name = "@" || (name = "*" && !quoted) then
                  return argumentPieces quoted (← get).arguments
                else
                  return piecesOf quoted (value.getD "")
            | .length => return piecesOf quoted (toString (value.getD "").length)
            | .fallback whenEmpty word =>
                if isGiven whenEmpty then return piecesOf quoted (value.getD "")
                else return piecesOf quoted (← textOf word)
            | .assigned whenEmpty word =>
                if isGiven whenEmpty then
                  return piecesOf quoted (value.getD "")
                let text ← textOf word
                Work.setVariable name text
                return piecesOf quoted text
            | .alternative whenEmpty word =>
                if isGiven whenEmpty then return piecesOf quoted (← textOf word)
                else return piecesOf quoted ""
            | .demanded whenEmpty message =>
                if isGiven whenEmpty then
                  return piecesOf quoted (value.getD "")
                let message := if message = "" then "parameter not set" else message
                giveUp s!"{name}: {message}"
            | .withoutStart longest pattern =>
                let pattern ← patternOf pattern
                let text := withoutStart longest pattern (value.getD "").toList
                return piecesOf quoted (String.ofList text)
            | .withoutEnd longest pattern =>
                let pattern ← patternOf pattern
                let text := withoutEnding longest pattern (value.getD "").toList
                return piecesOf quoted (String.ofList text)
      return pieces.flatten

/-- How deeply expansions may lie inside each other. -/
def maxExpansions : Nat := 100

/-- The text of a word that is a pattern. -/
def Piece.patternOf (pieces : List Piece) : List PatternPart :=
  PatternPart.ofGlyphs 0 (pieces.flatMap Piece.glyphs)

/-- The pieces of a word, with a tilde at its start as the home directory. -/
def expandWord (substitute : String → Work String) (word : Word) : Work (List Piece) := do
  match word with
  | .text false text :: rest =>
      if text = "~" || text.startsWith "~/" then
        let home := ((← Work.valueOf? "HOME")).getD "~"
        let rest ← expand substitute maxExpansions (.text false (text.drop 1).toString :: rest)
        return .quoted home :: rest
      else
        expand substitute maxExpansions word
  | word => expand substitute maxExpansions word

/-- The text of a word that stays one field. -/
def expandText (substitute : String → Work String) (word : Word) : Work String :=
  return Piece.textOf (← expandWord substitute word)

def partsFields (c : Char) : Bool := c == ' ' || c == '\t' || c == '\n'

/-- Fields that are made up of pieces: those that have ended, and the one that has begun. -/
structure Fields where
  ended : List (List Glyph)
  begun : Option (List Glyph)

namespace Fields

/-- The fields after the end of the one that has begun. -/
def endField (fields : Fields) : Fields :=
  ⟨fields.ended ++ fields.begun.toList, none⟩

/-- The fields with more in the one that has begun. -/
def extend (fields : Fields) (glyphs : List Glyph) : Fields :=
  { fields with begun := some (fields.begun.getD [] ++ glyphs) }

/-- The fields with a further piece. -/
def add (fields : Fields) : Piece → Fields
  | .fixed glyphs => fields.extend glyphs
  | .fieldEnd => fields.endField
  | .loose text => text.toList.foldl
      (fun fields c => if partsFields c then fields.endField else fields.extend [⟨c, false⟩]) fields

def ofPieces (pieces : List Piece) : List (List Glyph) :=
  (pieces.foldl add ⟨[], none⟩).endField.ended

end Fields

def glyphText (glyphs : List Glyph) : String :=
  String.ofList (glyphs.map (·.char))

def pathGlyphs (glyphs : List Glyph) : List (List Glyph) :=
  glyphs.foldr
    (fun glyph parts =>
      if glyph.char = '/' then [] :: parts
      else
        match parts with
        | part :: parts => (glyph :: part) :: parts
        | [] => [[glyph]])
    [[]]

/-- The names of the entries of a directory that a pattern stands for. Names that begin with a dot
are left out unless the pattern begins with one. -/
def entriesFor (disk : Disk) (directory : String) (glyphs : List Glyph) : List String :=
  let path := Path.ofString (if directory = "" then "." else directory)
  let entries := ((disk.directoryAt? path).map (·.2)).getD []
  let pattern := PatternPart.ofGlyphs 0 glyphs
  let hidden := (glyphs.head?.map (·.char)) = some '.'
  (entries.map (·.1)).filter fun name =>
    (hidden || name.toList.head? ≠ some '.') && PatternPart.stands pattern name.toList

/-- The names of files that patterns stand for, below a directory. -/
def filesFor (disk : Disk) : String → List (List Glyph) → List String
  | directory, [] => [directory]
  | directory, glyphs :: rest =>
      let names := if isPattern glyphs then entriesFor disk directory glyphs else [glyphText glyphs]
      names.flatMap fun name =>
        let path := directory ++ name
        if rest = [] then
          if disk.isThere (Path.ofString path) then [path] else []
        else
          filesFor disk (path ++ "/") rest

/-- The names of files that a field stands for, or its text. -/
def fieldTexts (disk : Disk) (glyphs : List Glyph) : List String :=
  if isPattern glyphs then
    match filesFor disk "" (pathGlyphs glyphs) with
    | [] => [glyphText glyphs]
    | files => files
  else
    [glyphText glyphs]

def expandFields (substitute : String → Work String) (words : List Word) : Work (List String) := do
  let fields ← words.mapM fun word => do
    let fields := Fields.ofPieces (← expandWord substitute word)
    return fields.flatMap (fieldTexts (← get).disk)
  return fields.flatten

end ProviderGen.Shell
