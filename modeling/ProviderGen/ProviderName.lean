import ProviderGen.Text.Digit

namespace ProviderGen

/-- Whether a character is a capital of ASCII. -/
def isCapital (c : Char) : Bool := 'A' ≤ c && c ≤ 'Z'

/-- Whether a character is a small letter of ASCII. -/
def isSmall (c : Char) : Bool := 'a' ≤ c && c ≤ 'z'

/-- How many characters the word at the start of a text has; zero where no word starts.

A run of capitals is a word, but leaves its last capital to small letters that follow; small
letters are a word, with at most one capital in front; so is a run of digits. -/
def wordLength (text : List Char) : Nat :=
  let capitals := text.takeWhile isCapital
  let smalls := (text.dropWhile isCapital).takeWhile isSmall
  if smalls.isEmpty then
    if capitals.isEmpty then (text.takeWhile Text.isDecimalDigit).length else capitals.length
  else
    match capitals.length with
    | 0 => smalls.length
    | 1 => 1 + smalls.length
    -- The last capital belongs to the small letters.
    | n => n - 1

/-- The words of a text of at most the given length. -/
def wordsWithin : Nat → List Char → List (List Char)
  | 0, _ => []
  | _, [] => []
  | bound + 1, c :: rest =>
      match wordLength (c :: rest) with
      | 0 => wordsWithin bound rest
      | n + 1 => (c :: rest.take n) :: wordsWithin bound (rest.drop n)

def wordsOf (text : List Char) : List (List Char) :=
  wordsWithin text.length text

/-- A word with a capital in front and small letters after it. -/
def capitalised : List Char → List Char
  | [] => []
  | first :: rest => first.toUpper :: rest.map Char.toLower

/-- The words of a text joined as one name. A text without words is named `Project`, and a digit
in front is shielded by an underscore. -/
def pascalCase (text : String) : String :=
  match (wordsOf text.toList).flatMap capitalised with
  | [] => "Project"
  | first :: rest =>
      if Text.isDecimalDigit first then String.ofList ('_' :: first :: rest)
      else String.ofList (first :: rest)

/-- The class name of the provider of a project. -/
def providerName (projectName : String) : String :=
  pascalCase projectName ++ "ModelProvider"

end ProviderGen
