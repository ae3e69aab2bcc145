namespace ProviderGen.Text

/-- What is wrong with bytes that are no UTF-8. -/
inductive Utf8Fault
  | invalidStart
  | invalidContinuation
  | unexpectedEnd
  deriving DecidableEq, Repr

def Utf8Fault.reason : Utf8Fault → String
  | invalidStart => "invalid start byte"
  | invalidContinuation => "invalid continuation byte"
  | unexpectedEnd => "unexpected end of data"

/-- Bytes that are no UTF-8: where they start, which they are, and what is wrong. -/
structure Utf8Flaw where
  position : Nat
  bytes : List UInt8
  fault : Utf8Fault
  deriving DecidableEq, Repr

/-- What a leading byte says: how many bytes follow, the range of the first of these, and the bits
that the leading byte gives. -/
structure Utf8Lead where
  following : Nat
  low : Nat
  high : Nat
  bits : Nat

/-- What a byte says as a leading byte; none if it cannot be one. -/
def utf8Lead? (byte : Nat) : Option Utf8Lead :=
  if byte < 0x80 then some ⟨0, 0x80, 0xbf, byte⟩
  else if byte < 0xc2 then none
  else if byte < 0xe0 then some ⟨1, 0x80, 0xbf, byte - 0xc0⟩
  else if byte = 0xe0 then some ⟨2, 0xa0, 0xbf, byte - 0xe0⟩
  else if byte = 0xed then some ⟨2, 0x80, 0x9f, byte - 0xe0⟩
  else if byte < 0xf0 then some ⟨2, 0x80, 0xbf, byte - 0xe0⟩
  else if byte = 0xf0 then some ⟨3, 0x90, 0xbf, byte - 0xf0⟩
  else if byte < 0xf4 then some ⟨3, 0x80, 0xbf, byte - 0xf0⟩
  else if byte = 0xf4 then some ⟨3, 0x80, 0x8f, byte - 0xf0⟩
  else none

/-- A character, or bytes that are none, and how many bytes that takes. -/
structure Utf8Unit where
  result : Except Utf8Fault Char
  length : Nat

/-- Reads the bytes that follow a leading byte, after some that have been read. -/
def utf8Following : Nat → Nat → Nat → Nat → Nat → List UInt8 → Utf8Unit
  | 0, _, _, bits, length, _ => ⟨.ok (Char.ofNat bits), length⟩
  | _ + 1, _, _, _, length, [] => ⟨.error .unexpectedEnd, length⟩
  | following + 1, low, high, bits, length, byte :: rest =>
      if low ≤ byte.toNat && byte.toNat ≤ high then
        utf8Following following 0x80 0xbf (bits * 0x40 + (byte.toNat - 0x80)) (length + 1) rest
      else
        ⟨.error .invalidContinuation, length⟩

/-- Reads the character that starts with a byte. -/
def utf8Unit (byte : UInt8) (rest : List UInt8) : Utf8Unit :=
  match utf8Lead? byte.toNat with
  | none => ⟨.error .invalidStart, 1⟩
  | some lead => utf8Following lead.following lead.low lead.high lead.bits 1 rest

/-- The characters of some bytes, and the flaws among them in their places. The first number bounds
the steps; the second is where the bytes start. -/
def utf8Units : Nat → Nat → List UInt8 → List (Except Utf8Flaw Char)
  | 0, _, _ => []
  | _, _, [] => []
  | bound + 1, position, byte :: rest =>
      let unit := utf8Unit byte rest
      let result := match unit.result with
        | .ok c => .ok c
        | .error fault => .error ⟨position, (byte :: rest).take unit.length, fault⟩
      result :: utf8Units bound (position + unit.length) ((byte :: rest).drop unit.length)

/-- The text of some bytes, or the first flaw in them. -/
def decodeStrictly (bytes : List UInt8) : Except Utf8Flaw (List Char) :=
  (utf8Units bytes.length 0 bytes).mapM id

/-- The text of some bytes, with a replacement character for each flaw. -/
def decodeLeniently (bytes : List UInt8) : List Char :=
  (utf8Units bytes.length 0 bytes).map fun unit =>
    match unit with
    | .ok c => c
    | .error _ => '\ufffd'

def encode (text : String) : List UInt8 :=
  text.toUTF8.toList

/-- Line ends of all kinds as line feeds. -/
def unifyLines : List Char → List Char
  | '\r' :: '\n' :: rest => '\n' :: unifyLines rest
  | '\r' :: rest => '\n' :: unifyLines rest
  | c :: rest => c :: unifyLines rest
  | [] => []

def Utf8Flaw.message (flaw : Utf8Flaw) : String :=
  let subject := match flaw.bytes with
    | [byte] =>
        let digits := Nat.toDigits 16 byte.toNat
        let padding := List.replicate (2 - digits.length) '0'
        s!"byte 0x{String.ofList (padding ++ digits)} in position {flaw.position}"
    | bytes => s!"bytes in position {flaw.position}-{flaw.position + bytes.length - 1}"
  s!"'utf-8' codec can't decode {subject}: {flaw.fault.reason}"

end ProviderGen.Text
