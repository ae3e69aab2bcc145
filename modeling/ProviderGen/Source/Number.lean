namespace ProviderGen.Source.Number

/-- Characters that go on in a name: letters, digits, underscores and all beyond ASCII. -/
def goesOnInName (c : Char) : Bool :=
  c.isAlphanum || c == '_' || 0x80 ≤ c.toNat

/-- How many characters of a literal lie before a rest of the text. -/
abbrev Reading := Option (Nat × List Char)

/-- Whether a text starts with a whole word. -/
def startsWithWord (word : List Char) (text : List Char) : Bool :=
  word.isPrefixOf text && !((text.drop word.length).head?.any goesOnInName)

/-- Whether a literal may end before a text. A letter beyond ASCII begins a token of its own. -/
def mayEndBefore (text : List Char) : Bool :=
  match text with
  | [] => true
  | c :: rest =>
      !goesOnInName c || 0x80 ≤ c.toNat
        || ["and", "else", "for", "or", "not"].any (fun word => startsWithWord word.toList text)
        || (c == 'i' && (rest.head?.any fun next => next == 'f' || next == 'n' || next == 's'))

def finish : Nat × List Char → Reading
  | (count, rest) => if mayEndBefore rest then some (count, rest) else none

/-- More digits, with single underscores between them. -/
def moreDigits (isDigit : Char → Bool) : Nat → List Char → Reading
  | count, [] => some (count, [])
  | count, c :: d :: rest =>
      if c == '_' then
        if isDigit d then moreDigits isDigit (count + 2) rest else none
      else if isDigit c then
        moreDigits isDigit (count + 1) (d :: rest)
      else
        some (count, c :: d :: rest)
  | count, [c] =>
      if c == '_' then none else if isDigit c then some (count + 1, []) else some (count, [c])

/-- The digits after the two characters that name a radix. -/
def radixDigits (isDigit : Char → Bool) (text : List Char) : Reading :=
  let (count, digits) := match text with
    | '_' :: rest => (3, rest)
    | rest => (2, rest)
  match digits with
  | d :: rest => if isDigit d then (moreDigits isDigit (count + 1) rest).bind finish else none
  | [] => none

/-- What may follow the digits of a decimal literal in the end: the mark of an imaginary number. -/
def imaginaryMark : Nat × List Char → Reading
  | (count, 'j' :: rest) => finish (count + 1, rest)
  | (count, 'J' :: rest) => finish (count + 1, rest)
  | reading => finish reading

/-- The exponent of a decimal literal, if there is one. -/
def exponent : Nat × List Char → Reading
  | (count, mark :: rest) =>
      if mark == 'e' || mark == 'E' then
        match rest with
        | sign :: digit :: more =>
            if sign == '+' || sign == '-' then
              if digit.isDigit then
                (moreDigits Char.isDigit (count + 3) more).bind imaginaryMark
              else
                none
            else if sign.isDigit then
              (moreDigits Char.isDigit (count + 2) (digit :: more)).bind imaginaryMark
            else
              finish (count, mark :: rest)
        | [digit] =>
            if digit.isDigit then imaginaryMark (count + 2, [])
            else if digit == '+' || digit == '-' then none
            else finish (count, mark :: rest)
        | [] => finish (count, mark :: rest)
      else
        imaginaryMark (count, mark :: rest)
  | (count, []) => some (count, [])

/-- The part after the point of a decimal literal. -/
def fraction : Nat × List Char → Reading
  | (count, digit :: rest) =>
      if digit.isDigit then (moreDigits Char.isDigit (count + 1) rest).bind exponent
      else exponent (count, digit :: rest)
  | (count, []) => some (count, [])

/-- What may follow the digits of a decimal literal: a point, an exponent, an imaginary mark. -/
def afterDigits : Nat × List Char → Reading
  | (count, '.' :: rest) => fraction (count + 1, rest)
  | reading => exponent reading

/-- Zeros at the start of a decimal literal, with single underscores between them. -/
def zeros : Nat → List Char → Reading
  | count, '0' :: rest => zeros (count + 1) rest
  | count, '_' :: '0' :: rest => zeros (count + 2) rest
  | count, '_' :: d :: rest => if d.isDigit then some (count + 1, d :: rest) else none
  | _, ['_'] => none
  | count, rest => some (count, rest)

/-- A literal that begins with a zero and names no radix. Other digits after the zero are allowed
only where the literal is no integer. -/
def afterZero (text : List Char) : Reading :=
  (zeros 1 text).bind fun (count, rest) =>
    match rest with
    | d :: more =>
        if d.isDigit then
          (moreDigits Char.isDigit (count + 1) more).bind fun (count, rest) =>
            if rest.head?.any ['.', 'e', 'E', 'j', 'J'].contains then afterDigits (count, rest)
            else none
        else
          afterDigits (count, rest)
    | [] => some (count, [])

def isOctalDigit (c : Char) : Bool := '0' ≤ c && c ≤ '7'

def isBinaryDigit (c : Char) : Bool := c == '0' || c == '1'

/-- Whether a character is a hexadecimal digit. -/
def isHexDigit (c : Char) : Bool :=
  c.isDigit || ('a' ≤ c && c ≤ 'f') || ('A' ≤ c && c ≤ 'F')

/-- The literal at the start of a text that begins with a digit, or with a point and a digit. -/
def read : List Char → Reading
  | '.' :: rest => fraction (1, rest)
  | '0' :: mark :: rest =>
      if mark == 'x' || mark == 'X' then radixDigits isHexDigit rest
      else if mark == 'o' || mark == 'O' then radixDigits isOctalDigit rest
      else if mark == 'b' || mark == 'B' then radixDigits isBinaryDigit rest
      else afterZero (mark :: rest)
  | '0' :: [] => some (1, [])
  | text => (moreDigits Char.isDigit 0 text).bind afterDigits

/-- Whether a literal stands for an imaginary number. -/
def isImaginary (text : String) : Bool :=
  text.toList.getLast?.any fun c => c == 'j' || c == 'J'

/-- Whether a literal is an integer in decimal digits. -/
def isDecimalInteger (text : String) : Bool :=
  text.toList.all fun c => c.isDigit || c == '_'

def digitCount (text : String) : Nat :=
  (text.toList.filter Char.isDigit).length

end ProviderGen.Source.Number
