import ProviderGen.Shell.Syntax
import ProviderGen.Text.Search

namespace ProviderGen.Shell

/-- Why a script cannot be read. -/
inductive ScriptError
  | openQuote
  | badSubstitution
  | unexpected (token : String) (expected : Option String)
  deriving DecidableEq, Repr

def ScriptError.message : ScriptError → String
  | openQuote => "Syntax error: Unterminated quoted string"
  | badSubstitution => "Bad substitution"
  | unexpected token expected =>
      let expecting := expected.elim "" fun word => s!" (expecting \"{word}\")"
      s!"Syntax error: {token} unexpected{expecting}"

/-- What a token is. The sign of a redirection comes with the number in front of it. -/
inductive TokenKind
  | word (word : Word)
  | operator (text : String)
  | redirection (number : Option Nat) (sign : String)
  | newline
  deriving DecidableEq, Repr

/-- A token and the line it stands on. -/
structure Token where
  kind : TokenKind
  line : Nat
  deriving DecidableEq, Repr

def endsWord (c : Char) : Bool :=
  [' ', '\t', '\n', '|', '&', ';', '<', '>', '(', ')'].contains c

/-- Whether a character has a meaning of its own inside a word. -/
def isSpecial (c : Char) : Bool :=
  ['\\', '\'', '"', '$', '\x60'].contains c

/-- Whether a name may begin with a character. -/
def startsName (c : Char) : Bool := c.isAlpha || c == '_'

/-- Whether a name may go on with a character. -/
def continuesName (c : Char) : Bool := c.isAlphanum || c == '_'

/-- The text up to the closing bracket, and the rest after it. Brackets inside count in pairs, and
those in quotes not at all. -/
def untilClosed (opening closing : Char) :
    Nat → Option Char → List Char → Option (List Char × List Char)
  | _, _, [] => none
  | depth, quote, '\\' :: c :: rest =>
      if quote = some '\'' then
        let quote := if c = '\'' then none else quote
        (untilClosed opening closing depth quote rest).map fun (text, rest) =>
          ('\\' :: c :: text, rest)
      else
        (untilClosed opening closing depth quote rest).map fun (text, rest) =>
          ('\\' :: c :: text, rest)
  | depth, some quote, c :: rest =>
      let next := if c = quote then none else some quote
      (untilClosed opening closing depth next rest).map fun (text, rest) => (c :: text, rest)
  | depth, none, c :: rest =>
      if c = closing then
        match depth with
        | 0 => some ([], rest)
        | depth + 1 =>
            (untilClosed opening closing depth none rest).map fun (text, rest) =>
              (c :: text, rest)
      else
        let quote := if c = '\'' || c = '"' then some c else none
        let depth := if c = opening then depth + 1 else depth
        (untilClosed opening closing depth quote rest).map fun (text, rest) => (c :: text, rest)

/-- The text up to the closing backquote, and the rest after it. -/
def untilBackquote : List Char → Option (List Char × List Char)
  | [] => none
  | '\x60' :: rest => some ([], rest)
  | '\\' :: c :: rest =>
      let kept := if c = '\x60' || c = '\\' || c = '$' then [c] else ['\\', c]
      (untilBackquote rest).map fun (text, rest) => (kept ++ text, rest)
  | c :: rest => (untilBackquote rest).map fun (text, rest) => (c :: text, rest)

/-- The use of a variable that is written after its name in braces. -/
def useOf (text : List Char) : Except ScriptError Use :=
  let word := fun (rest : List Char) => String.ofList rest
  match text with
  | [] => .ok .value
  | ':' :: '-' :: rest => .ok (.fallback true (word rest))
  | '-' :: rest => .ok (.fallback false (word rest))
  | ':' :: '=' :: rest => .ok (.assigned true (word rest))
  | '=' :: rest => .ok (.assigned false (word rest))
  | ':' :: '+' :: rest => .ok (.alternative true (word rest))
  | '+' :: rest => .ok (.alternative false (word rest))
  | ':' :: '?' :: rest => .ok (.demanded true (word rest))
  | '?' :: rest => .ok (.demanded false (word rest))
  | '#' :: '#' :: rest => .ok (.withoutStart true (word rest))
  | '#' :: rest => .ok (.withoutStart false (word rest))
  | '%' :: '%' :: rest => .ok (.withoutEnd true (word rest))
  | '%' :: rest => .ok (.withoutEnd false (word rest))
  | _ => .error .badSubstitution

/-- The name that a text begins with, and the rest after it. -/
def cutName (text : List Char) : List Char × List Char :=
  match text with
  | c :: rest =>
      if startsName c then (text.takeWhile continuesName, text.dropWhile continuesName)
      else if c.isDigit || ['?', '$', '#', '@', '*', '!', '-'].contains c then ([c], rest)
      else ([], text)
  | [] => ([], [])

/-- The part that braces after a dollar sign stand for. -/
def bracedPart (quoted : Bool) (text : List Char) : Except ScriptError Part :=
  match text with
  | '#' :: c :: rest =>
      let (name, rest) := cutName (c :: rest)
      if name ≠ [] && rest = [] then .ok (.variable quoted (String.ofList name) .length)
      else .error .badSubstitution
  | text =>
      let (name, rest) :=
        if text.head?.any Char.isDigit then
          (text.takeWhile Char.isDigit, text.dropWhile Char.isDigit)
        else cutName text
      if name = [] then .error .badSubstitution
      else (useOf rest).map (.variable quoted (String.ofList name))

/-- The part after a dollar sign, and the rest after it. -/
def dollarPart (quoted : Bool) (text : List Char) : Except ScriptError (Part × List Char) :=
  match text with
  | '(' :: '(' :: rest =>
      match untilClosed '(' ')' 1 none rest with
      | some (inner, rest) =>
          if inner.getLast? = some ')' then
            .ok (.arithmetic quoted (String.ofList inner.dropLast), rest)
          else
            .ok (.command quoted (String.ofList ('(' :: inner)), rest)
      | none => .error (.unexpected "end of file" (some ")"))
  | '(' :: rest =>
      match untilClosed '(' ')' 0 none rest with
      | some (inner, rest) => .ok (.command quoted (String.ofList inner), rest)
      | none => .error (.unexpected "end of file" (some ")"))
  | '\x7b' :: rest =>
      match untilClosed '\x7b' '\x7d' 0 none rest with
      | some (inner, rest) => (bracedPart quoted inner).map (·, rest)
      | none => .error (.unexpected "end of file" (some "\x7d"))
  | text =>
      match cutName text with
      | ([], rest) => .ok (.text quoted "$", rest)
      | (name, rest) => .ok (.variable quoted (String.ofList name) .value, rest)

/-- The parts of a word, and the rest after it. Inside double quotes, a word goes on to the closing
one; a document goes on to the end of the text. -/
def wordParts (document : Bool) : Nat → Bool → List Char → Except ScriptError (Word × List Char)
  | 0, _, rest => .ok ([], rest)
  | _ + 1, quoted, [] => if quoted && !document then .error .openQuote else .ok ([], [])
  | bound + 1, quoted, c :: rest => do
      let followedBy := fun (part : Part) (quoted : Bool) (rest : List Char) => do
        let (parts, rest) ← wordParts document bound quoted rest
        return (part :: parts, rest)
      if c = '\\' then
        match rest with
        | [] => followedBy (.text true "\\") quoted []
        | '\n' :: rest => wordParts document bound quoted rest
        | d :: rest =>
            let plain := quoted && !(['$', '\x60', '"', '\\'].contains d && !(document && d = '"'))
            followedBy (.text true (String.ofList (if plain then ['\\', d] else [d]))) quoted rest
      else if c = '$' then
        let (part, rest) ← dollarPart quoted rest
        followedBy part quoted rest
      else if c = '\x60' then
        match untilBackquote rest with
        | some (inner, rest) => followedBy (.command quoted (String.ofList inner)) quoted rest
        | none => throw (.unexpected "end of file" none)
      else if c = '"' && !document then
        followedBy (.text true "") (!quoted) rest
      else if c = '\'' && !quoted then
        let inner := rest.takeWhile (· ≠ '\'')
        match rest.dropWhile (· ≠ '\'') with
        | [] => throw .openQuote
        | _ :: rest => followedBy (.text true (String.ofList inner)) quoted rest
      else if quoted then
        let goesOn := fun c => !isSpecial c || c = '\'' || (document && c = '"')
        let text := (c :: rest).takeWhile goesOn
        followedBy (.text true (String.ofList text)) quoted ((c :: rest).dropWhile goesOn)
      else if endsWord c then
        return ([], c :: rest)
      else
        let goesOn := fun c => !isSpecial c && !endsWord c
        let text := (c :: rest).takeWhile goesOn
        followedBy (.text false (String.ofList text)) quoted ((c :: rest).dropWhile goesOn)

/-- The word that a text begins with, and the rest after it. -/
def cutWord (text : List Char) : Except ScriptError (Word × List Char) :=
  wordParts false (text.length + 1) false text

/-- The word that a text is as a whole, as if it stood in double quotes. -/
def documentWord (text : String) : Except ScriptError Word :=
  (wordParts true (text.length + 1) true text.toList).map (·.1)

/-- The signs of operators and redirections; the longer ones come first. -/
def signs : List (String × Bool) :=
  [("&&", false), ("||", false), (";;", false), ("<<-", true), ("<<", true), ("<&", true),
    (">>", true), (">&", true), (">|", true), ("<", true), (">", true), ("&", false),
    ("|", false), (";", false), ("(", false), (")", false)]

/-- The sign that a text begins with, whether it is that of a redirection, and the rest. -/
def cutSign (text : List Char) : Option (String × Bool × List Char) :=
  signs.findSome? fun (sign, redirects) =>
    if sign.toList.isPrefixOf text then some (sign, redirects, text.drop sign.length) else none

/-- The text of a word whose parts are only texts, and whether some of it is quoted. -/
def literalText (word : Word) : String × Bool :=
  let text := word.map fun part =>
    match part with
    | .text _ text => text
    | _ => ""
  let quoted := word.any fun part =>
    match part with
    | .text quoted _ => quoted
    | _ => false
  (String.join text, quoted)

/-- A document between lines: it ends with a line that is its mark. -/
structure Pending where
  mark : String
  quoted : Bool
  dropsTabs : Bool

/-- The first line of a text and the rest after it. -/
def cutLine (text : List Char) : List Char × List Char :=
  (text.takeWhile (· ≠ '\n'), (text.dropWhile (· ≠ '\n')).drop 1)

/-- The lines of a document, and the rest after its mark. -/
def documentLines (pending : Pending) : Nat → List Char → List Char × List Char
  | 0, rest => ([], rest)
  | bound + 1, text =>
      if text = [] then
        ([], [])
      else
        let (line, rest) := cutLine text
        let line := if pending.dropsTabs then line.dropWhile (· = '\t') else line
        if line = pending.mark.toList then ([], rest)
        else
          let (lines, rest) := documentLines pending bound rest
          (line ++ '\n' :: lines, rest)

/-- The documents that begin after a line, and the rest after them. -/
def documents : List Pending → List Char → Except ScriptError (List Word × List Char)
  | [], rest => .ok ([], rest)
  | pending :: others, rest => do
      let (text, rest) := documentLines pending (rest.length + 1) rest
      let text := String.ofList text
      let word ← if pending.quoted then pure [.text true text] else documentWord text
      let (words, rest) ← documents others rest
      return (word :: words, rest)

/-- Puts documents in the place of the marks that announce them. -/
def placeDocuments : List Token → List Word → List Token
  | ⟨.redirection number sign, line⟩ :: _ :: rest, word :: words =>
      if sign = "<<" || sign = "<<-" then
        ⟨.redirection number "<<", line⟩ :: ⟨.word word, line⟩ :: placeDocuments rest words
      else
        ⟨.redirection number sign, line⟩ :: placeDocuments rest (word :: words)
  | token :: rest, words => token :: placeDocuments rest words
  | [], _ => []

/-- The tokens of one line, the documents that it announces, and the rest after it. -/
def lineTokens (line : Nat) :
    Nat → List Char → Except ScriptError (List Token × List Pending × List Char)
  | 0, _ => .ok ([], [], [])
  | _ + 1, [] => .ok ([], [], [])
  | _ + 1, '\n' :: rest => .ok ([⟨.newline, line⟩], [], rest)
  | bound + 1, c :: rest => do
      if c = ' ' || c = '\t' then
        lineTokens line bound rest
      else if c = '\\' && rest.head? = some '\n' then
        lineTokens line bound (rest.drop 1)
      else if c = '#' then
        lineTokens line bound (rest.dropWhile (· ≠ '\n'))
      else
        let digits := (c :: rest).takeWhile Char.isDigit
        let afterDigits := (c :: rest).dropWhile Char.isDigit
        let numbered := digits ≠ [] && (afterDigits.head?.any fun c => c = '<' || c = '>')
        match cutSign (if numbered then afterDigits else c :: rest) with
        | some (sign, true, rest) =>
            let number := if numbered then (String.ofList digits).toNat? else none
            let token : Token := ⟨.redirection number sign, line⟩
            if sign = "<<" || sign = "<<-" then
              let (mark, rest) ← cutWord (rest.dropWhile (· = ' '))
              let (text, quoted) := literalText mark
              let (tokens, pending, rest) ← lineTokens line bound rest
              return (token :: ⟨.word mark, line⟩ :: tokens,
                ⟨text, quoted, sign = "<<-"⟩ :: pending, rest)
            else
              let (tokens, pending, rest) ← lineTokens line bound rest
              return (token :: tokens, pending, rest)
        | some (sign, false, rest) =>
            let (tokens, pending, rest) ← lineTokens line bound rest
            return (⟨.operator sign, line⟩ :: tokens, pending, rest)
        | none =>
            let (word, rest) ← cutWord (c :: rest)
            let (tokens, pending, rest) ← lineTokens line bound rest
            return (⟨.word word, line⟩ :: tokens, pending, rest)

/-- The tokens of the lines of a script from a line on. -/
def tokensFrom : Nat → Nat → List Char → Except ScriptError (List Token)
  | 0, _, _ => .ok []
  | bound + 1, line, text =>
      if text = [] then
        .ok []
      else do
        let (tokens, pending, rest) ← lineTokens line (text.length + 1) text
        let (words, rest) ← documents pending rest
        let next := line + (text.filter (· = '\n')).length - (rest.filter (· = '\n')).length
        return placeDocuments tokens words ++ (← tokensFrom bound next rest)

def tokens (script : String) : Except ScriptError (List Token) :=
  tokensFrom (script.length + 1) 1 script.toList

end ProviderGen.Shell
