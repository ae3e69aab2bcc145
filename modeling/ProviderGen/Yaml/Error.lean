import ProviderGen.Number.Reading
import ProviderGen.Text.Quoted

namespace ProviderGen.Yaml

/-- A length of time of which a part is too much, in days and seconds. -/
structure Offset where
  days : Int
  seconds : Nat
  deriving DecidableEq, Repr

/-- What is wrong with a date or a time. -/
inductive MomentFlaw
  | year (year : Nat)
  | month
  | day
  | hour
  | minute
  | second
  | offset (offset : Offset)
  deriving DecidableEq, Repr

def MomentFlaw.message : MomentFlaw → String
  | year number => s!"year {number} is out of range"
  | month => "month must be in 1..12"
  | day => "day is out of range for month"
  | hour => "hour must be in 0..23"
  | minute => "minute must be in 0..59"
  | second => "second must be in 0..59"
  | offset length =>
      let seconds := if length.seconds = 0 then "" else s!", seconds={length.seconds}"
      "offset must be a timedelta strictly between -timedelta(hours=24) and " ++
        s!"timedelta(hours=24), not datetime.timedelta(days={length.days}{seconds})."

/-- Why a document cannot be read. All but the first come from single scalars. A text that holds
half of a surrogate pair, which is no character, is left open. -/
inductive DocumentError
  | malformed
  | halfCharacter
  | noCharacter
  | hugeCharacter
  | integer (error : Number.IntegerError)
  | notNumber (text : String)
  | hugeBase
  | emptyNumber
  | unknownTruth (text : String)
  | notMoment
  | moment (flaw : MomentFlaw)
  deriving DecidableEq, Repr

/-- The wording of an integer that cannot be read. -/
def integerMessage : Number.IntegerError → String
  | .notInteger base text => s!"invalid literal for int() with base {base}: {Text.quoted text}"
  | .tooLong digits =>
      s!"Exceeds the limit ({Number.maxIntegerDigits} digits) for integer string conversion: " ++
        s!"value has {digits} digits; use sys.set_int_max_str_digits() to increase the limit"

def DocumentError.message : DocumentError → String
  | malformed => "malformed document"
  | halfCharacter => "half of a surrogate pair"
  | noCharacter => "chr() arg not in range(0x110000)"
  | hugeCharacter => "Python int too large to convert to C int"
  | integer error => integerMessage error
  | notNumber text => s!"could not convert string to float: {Text.quoted text}"
  | hugeBase => "int too large to convert to float"
  | emptyNumber => "string index out of range"
  | unknownTruth text => Text.quoted text
  | notMoment => "'NoneType' object has no attribute 'groupdict'"
  | moment flaw => flaw.message

end ProviderGen.Yaml
