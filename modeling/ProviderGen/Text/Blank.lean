namespace ProviderGen.Text

/-- Whether a character is blank: the controls that move or separate, and all spaces. -/
def isBlank (c : Char) : Bool :=
  let n := c.toNat
  (0x9 ≤ n && n ≤ 0xd) || (0x1c ≤ n && n ≤ 0x20) || n == 0x85 || n == 0xa0 || n == 0x1680 ||
    (0x2000 ≤ n && n ≤ 0x200a) || n == 0x2028 || n == 0x2029 || n == 0x202f || n == 0x205f ||
    n == 0x3000

/-- A text without the characters at its end that pass a test. -/
def trimRight (drop : Char → Bool) (text : List Char) : List Char :=
  (text.reverse.dropWhile drop).reverse

/-- A text without the blanks at its ends. -/
def trim (text : List Char) : List Char :=
  trimRight isBlank (text.dropWhile isBlank)

/-- A string without the blanks at its ends. -/
def trimmed (text : String) : String :=
  String.ofList (trim text.toList)

/-- A string without the characters at its end that are among some. -/
def withoutEnd (ending : List Char) (text : String) : String :=
  String.ofList (trimRight ending.contains text.toList)

end ProviderGen.Text
