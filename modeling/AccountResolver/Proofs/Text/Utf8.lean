import AccountResolver.Text.Glyph

/-!
# Texts as bytes

The bytes of a text, read one character at a time, are the characters of the text: none of them
is stray, and none is taken for another.
-/

namespace AccountResolver.Text.Glyph

open String (utf8EncodeChar)

/-- A text in UTF-8. -/
def bytes (t : List Char) : List UInt8 := t.flatMap utf8EncodeChar

/-! ### Single bytes -/

theorem tail?_low (n : Nat) : tail? (UInt8.ofNat (n % 64 + 128)) = some (n % 64) := by
  have hbyte : (UInt8.ofNat (n % 64 + 128)).toNat = n % 64 + 128 := by
    rw [UInt8.toNat_ofNat']
    omega
  have hrange : 0x80 ≤ n % 64 + 128 ∧ n % 64 + 128 < 0xC0 := by omega
  rw [tail?, hbyte, if_pos hrange, Nat.add_sub_cancel]

theorem scalar?_toNat (c : Char) {least : Nat} (h : least ≤ c.toNat) :
    scalar? least c.toNat = some c := by
  have hvalid : c.toNat.isValidChar := c.valid
  rw [scalar?, dif_pos ⟨h, hvalid⟩]
  exact congrArg some (Char.ext (UInt32.toNat.inj rfl))

/-! ### Characters -/

section

variable (c : Char) (rest : List UInt8)

theorem leading?_one (h : c.toNat < 0x80) :
    leading? (UInt8.ofNat c.toNat) rest = some (c, 0) := by
  have hbyte : (UInt8.ofNat c.toNat).toNat = c.toNat := by
    rw [UInt8.toNat_ofNat']
    omega
  simp only [leading?, hbyte, if_pos h, scalar?_toNat c (Nat.zero_le _)]
  rfl

theorem leading?_two (h : 0x80 ≤ c.toNat) (hlt : c.toNat < 0x800) :
    leading? (UInt8.ofNat (c.toNat / 64 % 32 + 192))
      (UInt8.ofNat (c.toNat % 64 + 128) :: rest) = some (c, 1) := by
  have hbyte : (UInt8.ofNat (c.toNat / 64 % 32 + 192)).toNat = c.toNat / 64 + 192 := by
    rw [UInt8.toNat_ofNat']
    omega
  have hlead : ¬ c.toNat / 64 + 192 < 0x80 ∧ ¬ c.toNat / 64 + 192 < 0xC0 ∧
      c.toNat / 64 + 192 < 0xE0 := by omega
  have hpoint : (c.toNat / 64 + 192 - 0xC0) * 64 + c.toNat % 64 = c.toNat := by omega
  simp only [leading?, hbyte, if_neg hlead.1, if_neg hlead.2.1, if_pos hlead.2.2, tail?_low,
    Option.bind_eq_bind, Option.bind_some, hpoint, scalar?_toNat c h]
  rfl

theorem leading?_three (h : 0x800 ≤ c.toNat) (hlt : c.toNat < 0x10000) :
    leading? (UInt8.ofNat (c.toNat / 4096 % 16 + 224))
      (UInt8.ofNat (c.toNat / 64 % 64 + 128) :: UInt8.ofNat (c.toNat % 64 + 128) :: rest) =
        some (c, 2) := by
  have hbyte : (UInt8.ofNat (c.toNat / 4096 % 16 + 224)).toNat = c.toNat / 4096 + 224 := by
    rw [UInt8.toNat_ofNat']
    omega
  have hlead : ¬ c.toNat / 4096 + 224 < 0x80 ∧ ¬ c.toNat / 4096 + 224 < 0xC0 ∧
      ¬ c.toNat / 4096 + 224 < 0xE0 ∧ c.toNat / 4096 + 224 < 0xF0 := by omega
  have hpoint : ((c.toNat / 4096 + 224 - 0xE0) * 64 + c.toNat / 64 % 64) * 64 + c.toNat % 64 =
      c.toNat := by omega
  simp only [leading?, hbyte, if_neg hlead.1, if_neg hlead.2.1, if_neg hlead.2.2.1,
    if_pos hlead.2.2.2, tail?_low, Option.bind_eq_bind, Option.bind_some, hpoint,
    scalar?_toNat c h]
  rfl

theorem leading?_four (h : 0x10000 ≤ c.toNat) :
    leading? (UInt8.ofNat (c.toNat / 262144 % 8 + 240))
      (UInt8.ofNat (c.toNat / 4096 % 64 + 128) :: UInt8.ofNat (c.toNat / 64 % 64 + 128) ::
        UInt8.ofNat (c.toNat % 64 + 128) :: rest) = some (c, 3) := by
  have hlt : c.toNat < 0x110000 := by
    have hvalid : c.toNat < 0xd800 ∨ (0xdfff < c.toNat ∧ c.toNat < 0x110000) := c.valid
    omega
  have hbyte : (UInt8.ofNat (c.toNat / 262144 % 8 + 240)).toNat = c.toNat / 262144 + 240 := by
    rw [UInt8.toNat_ofNat']
    omega
  have hlead : ¬ c.toNat / 262144 + 240 < 0x80 ∧ ¬ c.toNat / 262144 + 240 < 0xC0 ∧
      ¬ c.toNat / 262144 + 240 < 0xE0 ∧ ¬ c.toNat / 262144 + 240 < 0xF0 ∧
        c.toNat / 262144 + 240 < 0xF8 := by omega
  have hpoint : (((c.toNat / 262144 + 240 - 0xF0) * 64 + c.toNat / 4096 % 64) * 64 +
      c.toNat / 64 % 64) * 64 + c.toNat % 64 = c.toNat := by omega
  simp only [leading?, hbyte, if_neg hlead.1, if_neg hlead.2.1, if_neg hlead.2.2.1,
    if_neg hlead.2.2.2.1, if_pos hlead.2.2.2.2, tail?_low, Option.bind_eq_bind,
    Option.bind_some, hpoint, scalar?_toNat c h]
  rfl

/-- The first byte of a character tells how many follow, and together they are the character. -/
theorem leading?_encode :
    ∃ b bs, utf8EncodeChar c = b :: bs ∧ leading? b (bs ++ rest) = some (c, bs.length) := by
  have hval : c.val.toNat = c.toNat := rfl
  rw [utf8EncodeChar, hval]
  split
  · next hone => exact ⟨_, [], rfl, leading?_one c _ (by omega)⟩
  split
  · next hone htwo => exact ⟨_, [_], rfl, leading?_two c _ (by omega) (by omega)⟩
  split
  · next hone htwo hthree => exact ⟨_, [_, _], rfl, leading?_three c _ (by omega) (by omega)⟩
  · next hone htwo hthree => exact ⟨_, [_, _, _], rfl, leading?_four c _ (by omega)⟩

end

/-! ### Texts -/

/-- Bytes that belong to the character before are passed over. -/
theorem ofBytesAfter_length (bs rest : List UInt8) :
    ofBytesAfter bs.length (bs ++ rest) = ofBytesAfter 0 rest := by
  induction bs with
  | nil => rfl
  | cons b bs ih => exact ih

/-- The bytes of a text are read as its characters. -/
theorem ofBytes_bytes (t : List Char) : ofBytes (bytes t) = t.map .char := by
  induction t with
  | nil => rfl
  | cons c t ih =>
    obtain ⟨b, bs, hc, hlead⟩ := leading?_encode c (bytes t)
    have hbytes : bytes (c :: t) = b :: (bs ++ bytes t) := by
      rw [bytes, List.flatMap_cons, hc]
      rfl
    rw [hbytes, ofBytes, ofBytesAfter, hlead]
    simp only [ofBytesAfter_length, List.map_cons]
    exact congrArg _ ih

theorem toList_toUTF8 (s : String) : s.toUTF8.data.toList = bytes s.toList := by
  have h : s.toList.utf8Encode = s.toUTF8 := s.utf8Encode_toList
  rw [← h]
  simp [List.utf8Encode, bytes]

theorem ofBytes_toUTF8 (s : String) : ofBytes s.toUTF8.data.toList = ofString s := by
  rw [toList_toUTF8, ofBytes_bytes]
  rfl

end AccountResolver.Text.Glyph
