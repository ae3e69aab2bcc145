import ProviderGen.Yaml.Error

namespace ProviderGen.Yaml

/-- What a node is, by its tag or its shape. -/
inductive Kind
  | null
  | truth
  | integer
  | real
  | bytes
  | moment
  | text
  | pairs
  | set
  | sequence
  | mapping
  | merge
  | value
  | unknown
  deriving DecidableEq, Repr

/-- What the tags of all documents begin with. -/
def standardTags : String := "tag:yaml.org,2002:"

def kindNames : List (String × Kind) :=
  [("null", .null), ("bool", .truth), ("int", .integer), ("float", .real), ("binary", .bytes),
    ("timestamp", .moment), ("str", .text), ("omap", .pairs), ("pairs", .pairs), ("set", .set),
    ("seq", .sequence), ("map", .mapping), ("merge", .merge), ("value", .value)]

def Kind.ofTag (tag : String) : Kind :=
  ((kindNames.map fun (name, kind) => (standardTags ++ name, kind)).lookup tag).getD .unknown

namespace Shape

/-- A text without a sign in front. -/
def unsigned (text : List Char) : List Char :=
  (Number.signed text).2

/-- Whether a character is a decimal digit or an underscore. -/
def isFiller (c : Char) : Bool := Number.isDigit c || c == '_'

/-- The rest of a text after a digit and more digits or underscores. -/
def afterDigits? (text : List Char) : Option (List Char) :=
  if text.head?.any Number.isDigit then some (text.dropWhile isFiller) else none

/-- The rest of a text after parts of sixty, each with a colon in front. -/
def afterSixties : Nat → List Char → List Char
  | 0, text => text
  | bound + 1, text =>
      match text with
      | ':' :: a :: b :: rest =>
          if '0' ≤ a && a ≤ '5' && Number.isDigit b then afterSixties bound rest
          else if Number.isDigit a then afterSixties bound (b :: rest)
          else text
      | [':', a] => if Number.isDigit a then [] else text
      | _ => text

/-- The rest of a text after an exponent with a sign. -/
def afterExponent (text : List Char) : List Char :=
  match text with
  | mark :: sign :: rest =>
      let marked := (mark == 'e' || mark == 'E') && (sign == '+' || sign == '-')
      if marked && rest.head?.any Number.isDigit then rest.dropWhile Number.isDigit else text
  | _ => text

/-- Whether a text is one of some words. -/
def isWord (words : List String) (text : List Char) : Bool :=
  words.any (·.toList = text)

def truthWords : List String :=
  ["yes", "Yes", "YES", "no", "No", "NO", "true", "True", "TRUE", "false", "False", "FALSE", "on",
    "On", "ON", "off", "Off", "OFF"]

def nullWords : List String := ["~", "null", "Null", "NULL", ""]

/-- Whether a text has the shape of a real number: it holds a point. -/
def isReal (text : List Char) : Bool :=
  let rest := unsigned text
  let decimal := (afterDigits? rest).any fun after =>
    after.head? = some '.' && afterExponent ((after.drop 1).dropWhile isFiller) = []
  let pointed := text.head? = some '.' &&
    (afterDigits? (text.drop 1)).any (afterExponent · = [])
  let sixties := (afterDigits? rest).any fun after =>
    let behind := afterSixties after.length after
    behind.length < after.length && behind.head? = some '.' && (behind.drop 1).all isFiller
  decimal || pointed || sixties || isWord [".inf", ".Inf", ".INF"] rest ||
    isWord [".nan", ".NaN", ".NAN"] text

/-- Whether a text is made of characters that pass a test, and has some. -/
def isRun (test : Char → Bool) (text : List Char) : Bool :=
  text ≠ [] && text.all test

/-- Whether a text has the shape of a whole number. -/
def isInteger (text : List Char) : Bool :=
  match unsigned text with
  | ['0'] => true
  | '0' :: 'b' :: rest => isRun (fun c => c == '0' || c == '1' || c == '_') rest
  | '0' :: 'x' :: rest => isRun (fun c => Number.isDigitOf 16 c || c == '_') rest
  | '0' :: rest => isRun (fun c => Number.isDigitOf 8 c || c == '_') rest
  | rest =>
      (afterDigits? rest).any fun after => afterSixties after.length after = []

end Shape

structure Zone where
  behind : Bool
  hours : Nat
  minutes : Nat
  deriving DecidableEq, Repr

/-- A time of day, with its zone if it is given. -/
structure DayTime where
  hour : Nat
  minute : Nat
  second : Nat
  zone : Option Zone
  deriving DecidableEq, Repr

/-- A date, with a time or without. A `full` date has two digits for the month and the day. -/
structure Moment where
  year : Nat
  month : Nat
  day : Nat
  full : Bool
  time : Option DayTime
  deriving DecidableEq, Repr

namespace Moment

/-- The number of the digits at the start of a text, of which there are as many as given, how many
there are, and the rest. -/
def number? (least most : Nat) (text : List Char) : Option (Nat × Nat × List Char) :=
  let digits := (text.take most).takeWhile Number.isDigit
  if digits.length < least then none
  else some (Number.valueOf 10 digits, digits.length, text.drop digits.length)

/-- The rest of a text after a character. -/
def after? (c : Char) : List Char → Option (List Char)
  | [] => none
  | first :: rest => if first == c then some rest else none

/-- Whether a character is a space or a tab. -/
def isSpace (c : Char) : Bool := c == ' ' || c == '\t'

/-- A time zone that makes up all of a text. -/
def zone? (text : List Char) : Option Zone :=
  match text with
  | ['Z'] => some ⟨false, 0, 0⟩
  | sign :: rest =>
      if sign == '+' || sign == '-' then do
        let (hours, _, rest) ← number? 1 2 rest
        match rest with
        | [] => return ⟨sign == '-', hours, 0⟩
        | ':' :: rest =>
            let (minutes, _, rest) ← number? 2 2 rest
            if rest = [] then some ⟨sign == '-', hours, minutes⟩ else none
        | _ => none
      else
        none
  | [] => none

/-- A time of day that makes up all of a text. -/
def dayTime? (text : List Char) : Option DayTime := do
  let (hour, _, rest) ← number? 1 2 text
  let (minute, _, rest) ← number? 2 2 (← after? ':' rest)
  let (second, _, rest) ← number? 2 2 (← after? ':' rest)
  let rest := match rest with
    | '.' :: rest => rest.dropWhile Number.isDigit
    | rest => rest
  if rest = [] then
    return ⟨hour, minute, second, none⟩
  else
    return ⟨hour, minute, second, some (← zone? (rest.dropWhile isSpace))⟩

/-- A date or a time that makes up all of a text. -/
def ofText? (text : List Char) : Option Moment := do
  let (year, _, rest) ← number? 4 4 text
  let (month, monthDigits, rest) ← number? 1 2 (← after? '-' rest)
  let (day, dayDigits, rest) ← number? 1 2 (← after? '-' rest)
  let full := monthDigits = 2 && dayDigits = 2
  match rest with
  | [] => return ⟨year, month, day, full, none⟩
  | c :: rest =>
      if c == 'T' || c == 't' then
        return ⟨year, month, day, full, some (← dayTime? rest)⟩
      else if isSpace c then
        return ⟨year, month, day, full, some (← dayTime? (rest.dropWhile isSpace))⟩
      else
        none

def daysIn (year month : Nat) : Nat :=
  if month = 2 then
    (if year % 4 = 0 && (year % 100 ≠ 0 || year % 400 = 0) then 29 else 28)
  else if [4, 6, 9, 11].contains month then 30
  else 31

def secondsPerDay : Nat := 86400

/-- The flaw of a time zone that is a day away or more. -/
def zoneFlaw? (zone : Zone) : Option MomentFlaw :=
  let seconds : Int := zone.hours * 3600 + zone.minutes * 60
  let offset := if zone.behind then -seconds else seconds
  if secondsPerDay ≤ offset.natAbs then
    some (.offset ⟨offset / secondsPerDay, (offset % secondsPerDay).toNat⟩)
  else
    none

/-- The first flaw of a date or a time. -/
def flaw? (moment : Moment) : Option MomentFlaw :=
  let zone := (moment.time.bind (·.zone)).bind zoneFlaw?
  let date :=
    if moment.year = 0 then some .year
    else if moment.month = 0 || 12 < moment.month then some fun _ => .month
    else if moment.day = 0 || daysIn moment.year moment.month < moment.day then
      some fun _ => .day
    else none
  let time := moment.time.bind fun time =>
    if 24 ≤ time.hour then some MomentFlaw.hour
    else if 60 ≤ time.minute then some .minute
    else if 60 ≤ time.second then some .second
    else none
  zone <|> date.map (· moment.year) <|> time

end Moment

namespace Shape

/-- Whether a text has the shape of a date or a time. -/
def isMoment (text : List Char) : Bool :=
  (Moment.ofText? text).any fun moment => moment.full || moment.time.isSome

end Shape

/-- The kind of a plain scalar. A line break at its end does not count. -/
def Kind.ofPlain (text : String) : Kind :=
  let text := text.toList
  let text := if text.getLast? = some '\n' then text.dropLast else text
  if Shape.isWord Shape.truthWords text then .truth
  else if Shape.isReal text then .real
  else if Shape.isInteger text then .integer
  else if text = ['<', '<'] then .merge
  else if Shape.isWord Shape.nullWords text then .null
  else if Shape.isMoment text then .moment
  else if text = ['='] then .value
  else if text = ['!'] || text = ['&'] || text = ['*'] then .unknown
  else .text

end ProviderGen.Yaml
