import ProviderGen.Configuration.Error
import ProviderGen.Text.Blank
import ProviderGen.Value

namespace ProviderGen

namespace Setting

/-- A whole number that is too long to be written out. -/
inductive TooLong
  | mk
  deriving DecidableEq, Repr

def integerText (n : Int) : Except TooLong String :=
  (Number.integerText? n).elim (.error .mk) .ok

/-- The text that a value means. Numbers are written out. -/
def text? : Value → Except TooLong (Option String)
  | .text value => .ok (some value)
  | .integer value => (integerText value).map some
  | .real value => .ok (some value.toText)
  | _ => .ok none

def itemText? : Value → Except TooLong (Option String)
  | .truth value => .ok (some (Value.truthText value))
  | value => text? value

/-- The texts that a value means. A single text counts as a list. -/
def texts : Value → Except TooLong (List String)
  | .text value => .ok [value]
  | .list items => return (← items.mapM itemText?).filterMap id
  | .bytes bytes => .ok (bytes.map fun byte => toString byte.toNat)
  | _ => .ok []

/-- A whole number that is too large for a real one. -/
inductive TooLarge
  | mk
  deriving DecidableEq, Repr

/-- The real number that a value means. -/
def real? : Value → Except TooLarge (Option Binary64)
  | .integer value => (Binary64.ofInt? value).elim (.error .mk) (.ok ∘ some)
  | .real value => .ok (some value)
  | .text value => .ok (Number.readBinary? value)
  | _ => .ok none

/-- The entries of a mapping; none of any other value. -/
def entries : Value → List (String × Value)
  | .mapping entries => entries
  | _ => []

/-- The value of a key; nothing if it is not given. -/
def valueOf (entries : List (String × Value)) (key : String) : Value :=
  (Value.lookup key entries).getD .null

/-- Why a list of keywords cannot be understood. -/
inductive KeywordListError
  | flawed (flaw : ConfigurationFlaw)
  | tooLong
  deriving DecidableEq, Repr

/-- The keyword of an entry: a text, or a mapping that gives one. -/
def keywordOf (name : String) (entry : Value) : Except KeywordListError String := do
  let value := match entry with
    | .mapping entries => valueOf entries "keyword"
    | value => value
  let text ← (text? value).mapError fun _ => .tooLong
  match Text.trim (text.getD "").toList with
  | [] => throw (.flawed (.noKeyword name))
  | keyword => return String.ofList keyword

/-- The keywords that a section gives under the first of some names that it has. -/
def keywords (entries : List (String × Value)) (names : List String) :
    Except KeywordListError (List String) :=
  let name := names.headD ""
  match (names.findSome? (Value.lookup · entries)).getD .null with
  | .null => .ok []
  | .list items => items.mapM (keywordOf name)
  | _ => .error (.flawed (.notList name))

end Setting

end ProviderGen
