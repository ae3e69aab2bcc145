import ProviderGen.Text.Quoted

namespace ProviderGen.Text

/-- Why a command line has no words. -/
inductive CommandWordError
  | openQuote
  | openEscape
  deriving DecidableEq, Repr

def CommandWordError.message : CommandWordError → String
  | openQuote => "No closing quotation"
  | openEscape => "No escaped character"

/-- Where in a command line a character stands: outside quotes, inside some, or after a backslash
outside quotes or inside double ones. -/
inductive CommandPlace
  | plain
  | inQuotes (quote : Char)
  | escaped
  | escapedInQuotes
  deriving DecidableEq, Repr

def partsWords (c : Char) : Bool :=
  c == ' ' || c == '\t' || c == '\r' || c == '\n'

/-- The words of a command line from a place on, after the beginning of a word if one has begun. -/
def commandWordsFrom :
    CommandPlace → Option (List Char) → List Char → Except CommandWordError (List String)
  | .plain, word, [] => .ok (word.map String.ofList).toList
  | .plain, word, c :: rest =>
      if partsWords c then
        (commandWordsFrom .plain none rest).map ((word.map String.ofList).toList ++ ·)
      else if c == '\\' then commandWordsFrom .escaped word rest
      else if c == '\'' || c == '"' then commandWordsFrom (.inQuotes c) (some (word.getD [])) rest
      else commandWordsFrom .plain (some (word.getD [] ++ [c])) rest
  | .inQuotes _, _, [] => .error .openQuote
  | .inQuotes quote, word, c :: rest =>
      if c == quote then commandWordsFrom .plain word rest
      else if c == '\\' && quote == '"' then commandWordsFrom .escapedInQuotes word rest
      else commandWordsFrom (.inQuotes quote) (some (word.getD [] ++ [c])) rest
  | .escaped, _, [] => .error .openEscape
  | .escaped, word, c :: rest => commandWordsFrom .plain (some (word.getD [] ++ [c])) rest
  | .escapedInQuotes, _, [] => .error .openEscape
  | .escapedInQuotes, word, c :: rest =>
      let added := if c == '\\' || c == '"' then [c] else ['\\', c]
      commandWordsFrom (.inQuotes '"') (some (word.getD [] ++ added)) rest

def commandWords (text : String) : Except CommandWordError (List String) :=
  commandWordsFrom .plain none text.toList

end ProviderGen.Text
