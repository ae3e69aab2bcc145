import ProviderGen.Text.Quoted

namespace ProviderGen.Text

/-- The UTF-16 units of a character. -/
def units16 (c : Char) : List Nat :=
  if c.toNat < 0x10000 then [c.toNat]
  else
    let n := c.toNat - 0x10000
    [0xd800 + n / 0x400, 0xdc00 + n % 0x400]

def numbered (c : Char) : List Char :=
  (units16 c).flatMap fun unit => '\\' :: 'u' :: hexadecimal 4 unit

def literalCharacter (c : Char) : List Char :=
  if c == '"' || c == '\\' then ['\\', c]
  else if c == '\n' then ['\\', 'n']
  else if c == '\r' then ['\\', 'r']
  else if c == '\t' then ['\\', 't']
  else if c.toNat == 0xc then ['\\', 'f']
  else if c.toNat == 0x8 then ['\\', 'b']
  else if ['<', '>', '&', '\''].contains c then numbered c
  else if ' ' ≤ c && c ≤ '~' then [c]
  else numbered c

/-- The literal of a text. -/
def asciiLiteral (text : String) : String :=
  String.ofList ('"' :: text.toList.flatMap literalCharacter ++ ['"'])

end ProviderGen.Text
