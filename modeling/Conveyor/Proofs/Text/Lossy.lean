import Conveyor.Text.Utf8
/-!
# Lossy reading of well-formed text

The lossy reader decodes a byte string one character at a time and replaces only what is
ill-formed. Every text is well-formed UTF-8, so reading the bytes of a text gives the text
back (`lossy_toUTF8`): that is what lets a text travel as bytes in a header or as metadata
and be read back unchanged.

The proof follows the encoder. The encoder writes each character in one, two, three or four
bytes, by the size of its code point (`String.utf8EncodeChar`); for each width there is one
reading of `decodeAt` (`decodeAt_one` to `decodeAt_four`), and the encoder's bytes fall in the
ranges that reading asks for, so the character at the front of the rest comes back with its
width (`decodeAt_encode`). The whole reading is then an induction over the characters, with
the bytes read so far in front (`lossyFrom_encode`).
-/

namespace Conveyor.Utf8

/-- A character's code point is a Unicode scalar value: no surrogate, nothing past U+10FFFF. -/
theorem toNat_valid (c : Char) : c.toNat < 0xd800 ∨ (0xdfff < c.toNat ∧ c.toNat < 0x110000) :=
  c.valid

/-- The byte at a position of a list of bytes, or `256` past its end. -/
theorem byteAt_toByteArray (L : List UInt8) (j : Nat) :
    byteAt L.toByteArray j = (L[j]?.map UInt8.toNat).getD 256 := by
  unfold byteAt
  split
  · rename_i h
    rw [List.size_toByteArray] at h
    simp [List.getElem_toByteArray, List.getElem?_eq_getElem h]
  · rename_i h
    rw [List.size_toByteArray] at h
    simp [List.getElem?_eq_none (by omega : L.length ≤ j)]

/-! ### The four readings of `decodeAt` -/

section Readings

variable {bs : ByteArray} {i b0 b1 b2 b3 : Nat}

theorem decodeAt_one (h0 : byteAt bs i = b0) (hb0 : b0 < 0x80) :
    decodeAt bs i = (Char.ofNat b0, 0) := by
  simp [decodeAt, h0, hb0]

theorem decodeAt_two (h0 : byteAt bs i = b0) (h1 : byteAt bs (i + 1) = b1)
    (hb0 : 0xC2 ≤ b0 ∧ b0 ≤ 0xDF) (hb1 : 0x80 ≤ b1 ∧ b1 ≤ 0xBF) :
    decodeAt bs i = (Char.ofNat ((b0 - 0xC0) * 64 + (b1 - 0x80)), 1) := by
  have hn : ¬ b0 < 0x80 := by omega
  simp [decodeAt, h0, h1, hn, within, isCont, hb0, hb1]

theorem decodeAt_three (h0 : byteAt bs i = b0) (h1 : byteAt bs (i + 1) = b1)
    (h2 : byteAt bs (i + 2) = b2) (hb0 : 0xE0 ≤ b0 ∧ b0 ≤ 0xEF)
    (hb1 : (if b0 = 0xE0 then 0xA0 else 0x80) ≤ b1 ∧ b1 ≤ (if b0 = 0xED then 0x9F else 0xBF))
    (hb2 : 0x80 ≤ b2 ∧ b2 ≤ 0xBF) :
    decodeAt bs i = (Char.ofNat ((b0 - 0xE0) * 4096 + (b1 - 0x80) * 64 + (b2 - 0x80)), 2) := by
  have hn : ¬ b0 < 0x80 := by omega
  have hn2 : ¬ b0 ≤ 0xDF := by omega
  simp [decodeAt, h0, h1, h2, hn, hn2, within, isCont, hb0, hb1, hb2]

theorem decodeAt_four (h0 : byteAt bs i = b0) (h1 : byteAt bs (i + 1) = b1)
    (h2 : byteAt bs (i + 2) = b2) (h3 : byteAt bs (i + 3) = b3) (hb0 : 0xF0 ≤ b0 ∧ b0 ≤ 0xF4)
    (hb1 : (if b0 = 0xF0 then 0x90 else 0x80) ≤ b1 ∧ b1 ≤ (if b0 = 0xF4 then 0x8F else 0xBF))
    (hb2 : 0x80 ≤ b2 ∧ b2 ≤ 0xBF) (hb3 : 0x80 ≤ b3 ∧ b3 ≤ 0xBF) :
    decodeAt bs i =
      (Char.ofNat ((b0 - 0xF0) * 262144 + (b1 - 0x80) * 4096 + (b2 - 0x80) * 64 + (b3 - 0x80)), 3) := by
  have hn : ¬ b0 < 0x80 := by omega
  have hn2 : ¬ b0 ≤ 0xDF := by omega
  have hn3 : ¬ b0 ≤ 0xEF := by omega
  simp [decodeAt, h0, h1, h2, h3, hn, hn2, hn3, within, isCont, hb0, hb1, hb2, hb3]

end Readings

/-! ### Reading back what the encoder wrote -/

/-- **One character back.** Where the bytes from a position on start with the encoding of a
character, `decodeAt` reads that character, and the bytes after the first that it takes. -/
theorem decodeAt_encode {L pre rest : List UInt8} {c : Char}
    (h : L = pre ++ (String.utf8EncodeChar c ++ rest)) :
    decodeAt L.toByteArray pre.length = (c, (String.utf8EncodeChar c).length - 1) := by
  have hv := toNat_valid c
  have hb : ∀ k, byteAt L.toByteArray (pre.length + k) =
      ((String.utf8EncodeChar c ++ rest)[k]?.map UInt8.toNat).getD 256 := by
    intro k
    rw [byteAt_toByteArray, h, List.getElem?_append_right (by omega)]
    simp
  have hb0 := hb 0
  rw [Nat.add_zero] at hb0
  have hb1 := hb 1
  have hb2 := hb 2
  have hb3 := hb 3
  -- the four widths of an encoding, as the encoder chooses them
  by_cases w1 : c.toNat ≤ 0x7f
  · have e : String.utf8EncodeChar c = [UInt8.ofNat c.toNat] := by simp [String.utf8EncodeChar, w1]
    simp only [e, List.cons_append, List.nil_append, List.getElem?_cons_zero, Option.map_some,
      Option.getD_some, UInt8.toNat_ofNat', Nat.reducePow] at hb0
    rw [Nat.mod_eq_of_lt (by omega)] at hb0
    rw [e, decodeAt_one hb0 (by omega), Char.ofNat_toNat]
    rfl
  by_cases w2 : c.toNat ≤ 0x7ff
  · have e : String.utf8EncodeChar c =
        [UInt8.ofNat (c.toNat / 64 % 0x20 + 0xc0), UInt8.ofNat (c.toNat % 0x40 + 0x80)] := by
      simp [String.utf8EncodeChar, w1, w2]
    simp only [e, List.cons_append, List.nil_append, List.getElem?_cons_zero,
      List.getElem?_cons_succ, Option.map_some, Option.getD_some, UInt8.toNat_ofNat',
      Nat.reducePow] at hb0 hb1
    rw [e, decodeAt_two hb0 hb1 (by omega) (by omega)]
    have hx : ((c.toNat / 64 % 32 + 192) % 256 - 192) * 64 + ((c.toNat % 64 + 128) % 256 - 128) =
        c.toNat := by omega
    rw [hx, Char.ofNat_toNat]
    rfl
  by_cases w3 : c.toNat ≤ 0xffff
  · have e : String.utf8EncodeChar c =
        [UInt8.ofNat (c.toNat / 4096 % 0x10 + 0xe0), UInt8.ofNat (c.toNat / 64 % 0x40 + 0x80),
          UInt8.ofNat (c.toNat % 0x40 + 0x80)] := by
      simp [String.utf8EncodeChar, w1, w2, w3]
    simp only [e, List.cons_append, List.nil_append, List.getElem?_cons_zero,
      List.getElem?_cons_succ, Option.map_some, Option.getD_some, UInt8.toNat_ofNat',
      Nat.reducePow] at hb0 hb1 hb2
    -- the second byte's narrower ranges after `E0` and `ED` hold: no overlong form, no surrogate
    rw [e, decodeAt_three hb0 hb1 hb2 (by omega) (by constructor <;> split <;> omega) (by omega)]
    have hx : ((c.toNat / 4096 % 16 + 224) % 256 - 224) * 4096 +
        ((c.toNat / 64 % 64 + 128) % 256 - 128) * 64 + ((c.toNat % 64 + 128) % 256 - 128) =
        c.toNat := by omega
    rw [hx, Char.ofNat_toNat]
    rfl
  · have e : String.utf8EncodeChar c =
        [UInt8.ofNat (c.toNat / 262144 % 0x08 + 0xf0), UInt8.ofNat (c.toNat / 4096 % 0x40 + 0x80),
          UInt8.ofNat (c.toNat / 64 % 0x40 + 0x80), UInt8.ofNat (c.toNat % 0x40 + 0x80)] := by
      simp [String.utf8EncodeChar, w1, w2, w3]
    simp only [e, List.cons_append, List.nil_append, List.getElem?_cons_zero,
      List.getElem?_cons_succ, Option.map_some, Option.getD_some, UInt8.toNat_ofNat',
      Nat.reducePow] at hb0 hb1 hb2 hb3
    -- after `F0` and `F4` the second byte rules out overlong forms and points past U+10FFFF
    rw [e, decodeAt_four hb0 hb1 hb2 hb3 (by omega) (by constructor <;> split <;> omega) (by omega)
      (by omega)]
    have hx : ((c.toNat / 262144 % 8 + 240) % 256 - 240) * 262144 +
        ((c.toNat / 4096 % 64 + 128) % 256 - 128) * 4096 +
        ((c.toNat / 64 % 64 + 128) % 256 - 128) * 64 + ((c.toNat % 64 + 128) % 256 - 128) =
        c.toNat := by omega
    rw [hx, Char.ofNat_toNat]
    rfl

/-- Reading from the end of what was read so far, where the rest is the encoding of some
characters, appends exactly those characters. The induction is on the characters left, with
the bytes before them growing by one encoding at each step. -/
theorem lossyFrom_encode (L : List UInt8) : ∀ (l : List Char) (pre : List UInt8) (acc : String),
    L = pre ++ l.flatMap String.utf8EncodeChar →
    lossyFrom L.toByteArray pre.length acc = acc ++ String.ofList l
  | [], pre, acc, h => by
    rw [lossyFrom, if_neg (by simp [List.size_toByteArray, h])]
    simp
  | c :: l, pre, acc, h => by
    have hw : 0 < (String.utf8EncodeChar c).length := by
      rw [String.length_utf8EncodeChar]
      exact Char.utf8Size_pos c
    have hlt : pre.length < L.toByteArray.size := by
      simp only [List.size_toByteArray, h, List.flatMap_cons, List.length_append]
      omega
    have hL : L = pre ++ (String.utf8EncodeChar c ++ l.flatMap String.utf8EncodeChar) := by
      simpa using h
    rw [lossyFrom, if_pos hlt, decodeAt_encode hL]
    have hnext : pre.length + ((String.utf8EncodeChar c).length - 1) + 1 =
        (pre ++ String.utf8EncodeChar c).length := by
      rw [List.length_append]
      omega
    dsimp only
    rw [hnext, lossyFrom_encode L l (pre ++ String.utf8EncodeChar c) (acc.push c) (by simpa using h)]
    rw [String.push_eq_append, String.append_assoc, String.ofList_cons]

/-- **Reading a text's own bytes gives the text back.** -/
theorem lossy_toUTF8 (s : String) : lossy s.toUTF8 = s := by
  have h := lossyFrom_encode (s.toList.flatMap String.utf8EncodeChar) s.toList [] "" (by simp)
  simpa [lossy, String.toUTF8_eq_toByteArray, ← String.utf8Encode_toList, List.utf8Encode] using h

end Conveyor.Utf8
