import ProviderGen.Text.Utf8
import Mathlib.Data.List.Basic

namespace ProviderGen.Text

section Bytes

theorem toList_loop (bytes : ByteArray) (start : Nat) (done : List UInt8) :
    ByteArray.toList.loop bytes start done = done.reverse ++ bytes.data.toList.drop start := by
  fun_induction ByteArray.toList.loop bytes start done with
  | case1 start done hlt ih =>
      have hstart : start < bytes.data.toList.length := by simpa using hlt
      rw [ih, List.drop_eq_getElem_cons hstart]
      simp [ByteArray.get!, hlt]
  | case2 start done hle =>
      rw [List.drop_eq_nil_of_le (by simpa using Nat.le_of_not_lt hle), List.append_nil]

theorem encode_eq (text : String) : encode text = text.toList.flatMap String.utf8EncodeChar := by
  have hbytes : text.toUTF8 = (text.toList.flatMap String.utf8EncodeChar).toByteArray :=
    String.utf8Encode_toList.symm
  rw [encode, hbytes, ByteArray.toList, toList_loop, List.toList_data_toByteArray]
  rfl

end Bytes

section Characters

variable {bits : Nat}

theorem toNat_ofNat {byte : Nat} (h : byte < 0x100) : (UInt8.ofNat byte).toNat = byte :=
  UInt8.toNat_ofNat_of_lt' h

theorem utf8Lead?_one (h : bits < 0x80) : utf8Lead? bits = some ⟨0, 0x80, 0xbf, bits⟩ := by
  rw [utf8Lead?, if_pos h]

theorem utf8Lead?_two (hlow : 2 ≤ bits) (hhigh : bits < 0x20) :
    utf8Lead? (bits + 0xc0) = some ⟨1, 0x80, 0xbf, bits⟩ := by
  rw [utf8Lead?, if_neg (by omega), if_neg (by omega), if_pos (by omega), Nat.add_sub_cancel]

/-- After the first of three bytes, the next is in a range that leaves out what takes fewer bytes,
and the surrogates. -/
theorem exists_utf8Lead?_three (h : bits < 0x10) :
    ∃ low high, utf8Lead? (bits + 0xe0) = some ⟨2, low, high, bits⟩ ∧
      ∀ next, 0x80 ≤ next → next ≤ 0xbf → (bits = 0 → 0xa0 ≤ next) →
        (bits = 0xd → next ≤ 0x9f) → low ≤ next ∧ next ≤ high := by
  have hthree : bits + 0xe0 < 0xf0 := by omega
  rw [utf8Lead?, if_neg (by omega), if_neg (by omega), if_neg (by omega), if_pos hthree,
    Nat.add_sub_cancel]
  split_ifs with hfirst hsurrogate
  · exact ⟨_, _, rfl, fun next _ hle hge _ => ⟨hge (by omega), hle⟩⟩
  · exact ⟨_, _, rfl, fun next hge _ _ hle => ⟨hge, hle (by omega)⟩⟩
  · exact ⟨_, _, rfl, fun next hge hle _ _ => ⟨hge, hle⟩⟩

theorem exists_utf8Lead?_four (h : bits ≤ 4) :
    ∃ low high, utf8Lead? (bits + 0xf0) = some ⟨3, low, high, bits⟩ ∧
      ∀ next, 0x80 ≤ next → next ≤ 0xbf → (bits = 0 → 0x90 ≤ next) →
        (bits = 4 → next ≤ 0x8f) → low ≤ next ∧ next ≤ high := by
  rw [utf8Lead?, if_neg (by omega), if_neg (by omega), if_neg (by omega), if_neg (by omega),
    if_neg (by omega), if_neg (by omega), Nat.add_sub_cancel]
  split_ifs with hfirst hmiddle hlast
  · exact ⟨_, _, rfl, fun next _ hle hge _ => ⟨hge (by omega), hle⟩⟩
  · exact ⟨_, _, rfl, fun next hge hle _ _ => ⟨hge, hle⟩⟩
  · exact ⟨_, _, rfl, fun next hge _ _ hle => ⟨hge, hle (by omega)⟩⟩
  · omega

theorem utf8Following_succ {low high following length code : Nat} (rest : List UInt8)
    (h : low ≤ code % 0x40 + 0x80 ∧ code % 0x40 + 0x80 ≤ high) :
    utf8Following (following + 1) low high bits length
        (UInt8.ofNat (code % 0x40 + 0x80) :: rest) =
      utf8Following following 0x80 0xbf (bits * 0x40 + code % 0x40) (length + 1) rest := by
  rw [utf8Following, toNat_ofNat (by omega), Nat.add_sub_cancel]
  simp [h]

theorem exists_utf8Unit_eq (c : Char) :
    ∃ byte tail, String.utf8EncodeChar c = byte :: tail ∧
      ∀ rest, utf8Unit byte (tail ++ rest) = ⟨.ok c, tail.length + 1⟩ := by
  have hvalid : c.val.toNat < 0xd800 ∨ 0xdfff < c.val.toNat ∧ c.val.toNat < 0x110000 := c.valid
  have hchar : Char.ofNat c.val.toNat = c := Char.ofNat_toNat c
  unfold String.utf8EncodeChar
  dsimp only
  generalize c.val.toNat = code at hvalid hchar
  split_ifs with hone htwo hthree
  · refine ⟨_, _, rfl, fun rest => ?_⟩
    rw [utf8Unit, toNat_ofNat (by omega), utf8Lead?_one (by omega)]
    dsimp only
    rw [utf8Following, hchar, List.length_nil]
  · refine ⟨_, _, rfl, fun rest => ?_⟩
    have hcode : code / 64 % 32 * 64 + code % 64 = code := by omega
    rw [utf8Unit, toNat_ofNat (by omega), utf8Lead?_two (by omega) (by omega)]
    dsimp only [List.cons_append]
    rw [utf8Following_succ _ (by omega), utf8Following, hcode, hchar]
    rfl
  · have hbits : code / 4096 % 16 < 0x10 := by omega
    obtain ⟨low, high, hlead, hrange⟩ := exists_utf8Lead?_three hbits
    refine ⟨_, _, rfl, fun rest => ?_⟩
    have hcode : (code / 4096 % 16 * 64 + code / 64 % 64) * 64 + code % 64 = code := by omega
    rw [utf8Unit, toNat_ofNat (by omega), hlead]
    dsimp only [List.cons_append]
    rw [utf8Following_succ _ (hrange _ (by omega) (by omega) (by omega) (by omega)),
      utf8Following_succ _ (by omega), utf8Following, hcode, hchar]
    rfl
  · have hbits : code / 262144 % 8 ≤ 4 := by omega
    obtain ⟨low, high, hlead, hrange⟩ := exists_utf8Lead?_four hbits
    refine ⟨_, _, rfl, fun rest => ?_⟩
    have hcode : ((code / 262144 % 8 * 64 + code / 4096 % 64) * 64 + code / 64 % 64) * 64 +
        code % 64 = code := by
      omega
    rw [utf8Unit, toNat_ofNat (by omega), hlead]
    dsimp only [List.cons_append]
    rw [utf8Following_succ _ (hrange _ (by omega) (by omega) (by omega) (by omega)),
      utf8Following_succ _ (by omega), utf8Following_succ _ (by omega), utf8Following, hcode, hchar]
    rfl

/-- What was written as text is read as it was, character by character. -/
theorem utf8Units_flatMap (chars : List Char) {bound : Nat} (position : Nat)
    (h : (chars.flatMap String.utf8EncodeChar).length ≤ bound) :
    utf8Units bound position (chars.flatMap String.utf8EncodeChar) = chars.map .ok := by
  induction chars generalizing bound position with
  | nil => cases bound <;> rfl
  | cons c chars ih =>
      obtain ⟨byte, tail, hbytes, hunit⟩ := exists_utf8Unit_eq c
      rw [List.flatMap_cons, hbytes, List.cons_append] at h ⊢
      cases bound with
      | zero => simp at h
      | succ bound =>
          have hrest : (chars.flatMap String.utf8EncodeChar).length ≤ bound := by
            simp only [List.length_cons, List.length_append] at h
            omega
          rw [utf8Units, hunit]
          simp [ih _ hrest]

theorem decodeStrictly_encode (text : String) :
    decodeStrictly (encode text) = .ok text.toList := by
  rw [decodeStrictly, encode_eq, utf8Units_flatMap _ _ (Nat.le_refl _)]
  induction text.toList with
  | nil => rfl
  | cons c chars ih =>
      rw [List.map_cons, List.mapM_cons, ih]
      rfl

theorem decodeLeniently_encode (text : String) : decodeLeniently (encode text) = text.toList := by
  rw [decodeLeniently, encode_eq, utf8Units_flatMap _ _ (Nat.le_refl _), List.map_map]
  exact List.map_id _

end Characters

section Lines

/-- What ends the lines of a text that does not end them with line feeds. -/
inductive LineEnd
  | crLf
  | cr

def LineEnd.chars : LineEnd → List Char
  | crLf => ['\r', '\n']
  | cr => ['\r']

/-- A text with other ends of its lines. -/
def endLines (lineEnd : LineEnd) (text : List Char) : List Char :=
  text.flatMap fun c => if c = '\n' then lineEnd.chars else [c]

variable {text : List Char}

theorem unifyLines_cons {c : Char} (h : c ≠ '\r') :
    unifyLines (c :: text) = c :: unifyLines text := by
  simp [unifyLines, h]

theorem unifyLines_return (h : text.head? ≠ some '\n') :
    unifyLines ('\r' :: text) = '\n' :: unifyLines text := by
  cases text with
  | nil => rfl
  | cons c text =>
      have hc : c ≠ '\n' := by simpa using h
      simp [unifyLines, hc]

theorem unifyLines_eq_self (h : '\r' ∉ text) : unifyLines text = text := by
  induction text with
  | nil => rfl
  | cons c text ih =>
      obtain ⟨hc, htext⟩ := List.ne_and_not_mem_of_not_mem_cons h
      rw [unifyLines_cons hc.symm, ih htext]

theorem head?_endLines_cr : (endLines .cr text).head? ≠ some '\n' := by
  cases text with
  | nil => simp [endLines]
  | cons c text =>
      by_cases hc : c = '\n'
      · simp [endLines, hc, LineEnd.chars]
      · simp [endLines, hc]

theorem unifyLines_endLines (lineEnd : LineEnd) (h : '\r' ∉ text) :
    unifyLines (endLines lineEnd text) = text := by
  induction text with
  | nil => rfl
  | cons c text ih =>
      obtain ⟨hc, htext⟩ := List.ne_and_not_mem_of_not_mem_cons h
      by_cases hfeed : c = '\n'
      · subst hfeed
        cases lineEnd with
        | crLf =>
            have hcons : endLines .crLf ('\n' :: text) = '\r' :: '\n' :: endLines .crLf text := rfl
            rw [hcons, unifyLines, ih htext]
        | cr =>
            have hcons : endLines .cr ('\n' :: text) = '\r' :: endLines .cr text := rfl
            rw [hcons, unifyLines_return head?_endLines_cr, ih htext]
      · have hcons : endLines lineEnd (c :: text) = c :: endLines lineEnd text := by
          simp [endLines, hfeed]
        rw [hcons, unifyLines_cons hc.symm, ih htext]

end Lines

end ProviderGen.Text
