namespace ProviderGen.Shell

/-- A character of a word, and whether it is quoted. -/
structure Glyph where
  char : Char
  quoted : Bool
  deriving DecidableEq, Repr

inductive PatternPart
  | char (c : Char)
  | anyChar
  | anyText
  | oneOf (negated : Bool) (ranges : List (Char × Char))
  deriving DecidableEq, Repr

namespace PatternPart

/-- The ranges of characters between brackets. -/
def rangesOf : List Char → List (Char × Char)
  | low :: '-' :: high :: rest => (low, high) :: rangesOf rest
  | c :: rest => (c, c) :: rangesOf rest
  | [] => []

/-- The part that brackets make, and how many characters it takes; none if they are not closed. -/
def bracketed? (glyphs : List Glyph) : Option (PatternPart × Nat) :=
  let chars := glyphs.map (·.char)
  let negated := chars.head?.any fun c => c = '!' || c = '^'
  let chars := if negated then chars.tail else chars
  let first := chars.take 1
  let inner := first ++ (chars.drop 1).takeWhile (· ≠ ']')
  if inner.length < chars.length && inner ≠ [] then
    some (oneOf negated (rangesOf inner), inner.length + (if negated then 1 else 0) + 1)
  else
    none

/-- The pattern of the characters of a word. `skip` says how many belong to a part already. -/
def ofGlyphs : Nat → List Glyph → List PatternPart
  | _, [] => []
  | skip + 1, _ :: rest => ofGlyphs skip rest
  | 0, glyph :: rest =>
      if glyph.quoted then char glyph.char :: ofGlyphs 0 rest
      else if glyph.char = '*' then anyText :: ofGlyphs 0 rest
      else if glyph.char = '?' then anyChar :: ofGlyphs 0 rest
      else if glyph.char = '[' then
        match bracketed? rest with
        | some (part, length) => part :: ofGlyphs length rest
        | none => char '[' :: ofGlyphs 0 rest
      else char glyph.char :: ofGlyphs 0 rest

/-- Whether a part stands for a character. -/
def admits (c : Char) : PatternPart → Bool
  | char other => c = other
  | anyChar => true
  | anyText => false
  | oneOf negated ranges => (ranges.any fun (low, high) => low ≤ c && c ≤ high) != negated

def stands : List PatternPart → List Char → Bool
  | [], text => text.isEmpty
  | anyText :: parts, text =>
      (List.range (text.length + 1)).any fun skipped => stands parts (text.drop skipped)
  | part :: parts, c :: text => part.admits c && stands parts text
  | _ :: _, [] => false

end PatternPart

/-- Whether a word has to be taken as a pattern. -/
def isPattern (glyphs : List Glyph) : Bool :=
  glyphs.any fun glyph => !glyph.quoted && ['*', '?', '['].contains glyph.char

end ProviderGen.Shell
