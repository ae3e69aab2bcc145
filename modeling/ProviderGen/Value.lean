import ProviderGen.Number.Decimal
import ProviderGen.Number.Reading
import ProviderGen.Text.Quoted

namespace ProviderGen

/-- A value. Of a mapping, only the entries whose keys are texts are known; what cannot be used in
any way is `other`. -/
inductive Value
  | null
  | truth (value : Bool)
  | integer (value : Int)
  | real (value : Binary64)
  | text (value : String)
  | bytes (value : List UInt8)
  | list (items : List Value)
  | mapping (entries : List (String × Value))
  | other
  deriving Inhabited, Repr

namespace Value

/-- The value of a key among entries: the last one that was given. -/
def lookup (key : String) (entries : List (String × Value)) : Option Value :=
  entries.reverse.lookup key

def truthText (value : Bool) : String := if value then "True" else "False"

def className : Value → String
  | null => "NoneType"
  | truth _ => "bool"
  | integer _ => "int"
  | real _ => "float"
  | text _ => "str"
  | bytes _ => "bytes"
  | list _ => "list"
  | mapping _ => "dict"
  | other => "object"

/-- Whether a value can stand as a key: one that has parts which may change cannot. -/
def canBeKey : Value → Bool
  | list _ | mapping _ => false
  | _ => true

/-- How a value is shown; none if it is a whole number that is too long. One that cannot stand as a
key is shown by its class. -/
def shown? : Value → Option String
  | null => some "None"
  | truth value => some (truthText value)
  | integer value => Number.integerText? value
  | real value => some value.toText
  | text value => some value
  | bytes value => some (Text.quotedBytes value)
  | value => some value.className

end Value

end ProviderGen
