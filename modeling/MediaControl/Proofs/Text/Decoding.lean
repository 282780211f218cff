import MediaControl.Proofs.Text.Encoding

/-!
# Bytes that are a text

A text that was read from bytes has these very bytes: no character has two forms, so reading and
writing again change nothing.

Main statements: `encodeChar_append_of_front` (one character) and `encode_of_decode` (a text).
-/

set_option autoImplicit false

namespace MediaControl.Utf8

/-! ## The bytes of one character -/

/-- The bytes of a character that was made from its code point, which is no surrogate. -/
theorem utf8EncodeChar_charOfNat {v : Nat} (h : v < 0xD800 ∨ 0xDFFF < v ∧ v < 0x110000) :
    String.utf8EncodeChar (Char.ofNat v) =
      if v ≤ 0x7F then [UInt8.ofNat v]
      else if v ≤ 0x7FF then [UInt8.ofNat (v / 64 % 32 + 192), UInt8.ofNat (v % 64 + 128)]
      else if v ≤ 0xFFFF then
        [UInt8.ofNat (v / 4096 % 16 + 224), UInt8.ofNat (v / 64 % 64 + 128),
          UInt8.ofNat (v % 64 + 128)]
      else
        [UInt8.ofNat (v / 262144 % 8 + 240), UInt8.ofNat (v / 4096 % 64 + 128),
          UInt8.ofNat (v / 64 % 64 + 128), UInt8.ofNat (v % 64 + 128)] := by
  have hvalid : v.isValidChar := h
  have hvalue : (Char.ofNat v).val.toNat = v := by
    rw [Char.ofNat, dif_pos hvalid]
    rfl
  simp only [String.utf8EncodeChar, hvalue]

theorem ofNat_eq {b : UInt8} {n : Nat} (h : n = b.toNat) : UInt8.ofNat n = b := by
  rw [h, UInt8.ofNat_toNat]

/-! ## Reading one character

The bytes keep to the ranges that the reader looks at, and in these ranges the payloads determine the
bytes. -/

theorem toNat_of_isTail {b : UInt8} (h : isTail b = true) : 128 ≤ b.toNat ∧ b.toNat ≤ 191 := by
  simpa [isTail, UInt8.le_iff_toNat_le] using h

theorem toNat_of_isSecondOfThree {first second : UInt8}
    (h : isSecondOfThree first second = true) :
    128 ≤ second.toNat ∧ second.toNat ≤ 191 ∧ (first.toNat = 0xE0 → 0xA0 ≤ second.toNat) ∧
      (first.toNat = 0xED → second.toNat ≤ 0x9F) := by
  unfold isSecondOfThree at h
  split at h
  · rename_i hfirst
    simp [UInt8.le_iff_toNat_le] at h
    simp [hfirst]
    omega
  · split at h
    · rename_i hfirst
      simp [UInt8.le_iff_toNat_le] at h
      simp [hfirst]
      omega
    · rename_i hE0 hED
      have htail := toNat_of_isTail h
      simp [← UInt8.toNat_inj] at hE0 hED
      omega

theorem toNat_of_isSecondOfFour {first second : UInt8} (h : isSecondOfFour first second = true) :
    128 ≤ second.toNat ∧ second.toNat ≤ 191 ∧ (first.toNat = 0xF0 → 0x90 ≤ second.toNat) ∧
      (first.toNat = 0xF4 → second.toNat ≤ 0x8F) := by
  unfold isSecondOfFour at h
  split at h
  · rename_i hfirst
    simp [UInt8.le_iff_toNat_le] at h
    simp [hfirst]
    omega
  · split at h
    · rename_i hfirst
      simp [UInt8.le_iff_toNat_le] at h
      simp [hfirst]
      omega
    · rename_i hF0 hF4
      have htail := toNat_of_isTail h
      simp [← UInt8.toNat_inj] at hF0 hF4
      omega

theorem encodeChar_of_one {b : UInt8} (h : b.toNat < 0x80) :
    String.utf8EncodeChar (Char.ofNat b.toNat) = [b] := by
  rw [utf8EncodeChar_charOfNat (by omega), if_pos (by omega), ofNat_eq rfl]

theorem encodeChar_of_two {first b : UInt8} (hlow : 0xC2 ≤ first.toNat) (hhigh : first.toNat < 0xE0)
    (hb : isTail b = true) :
    String.utf8EncodeChar (Char.ofNat (first.toNat % 32 * 64 + tailBits b)) = [first, b] := by
  have hb := toNat_of_isTail hb
  simp only [tailBits]
  rw [utf8EncodeChar_charOfNat (by omega), if_neg (by omega), if_pos (by omega),
    ofNat_eq (b := first) (by omega), ofNat_eq (b := b) (by omega)]

theorem encodeChar_of_three {first b d : UInt8} (hlow : 0xE0 ≤ first.toNat)
    (hhigh : first.toNat < 0xF0) (hb : isSecondOfThree first b = true) (hd : isTail d = true) :
    String.utf8EncodeChar
      (Char.ofNat (first.toNat % 16 * 4096 + tailBits b * 64 + tailBits d)) = [first, b, d] := by
  have hb := toNat_of_isSecondOfThree hb
  have hd := toNat_of_isTail hd
  simp only [tailBits]
  rw [utf8EncodeChar_charOfNat (by omega), if_neg (by omega), if_neg (by omega), if_pos (by omega),
    ofNat_eq (b := first) (by omega), ofNat_eq (b := b) (by omega), ofNat_eq (b := d) (by omega)]

theorem encodeChar_of_four {first b d e : UInt8} (hlow : 0xF0 ≤ first.toNat)
    (hhigh : first.toNat < 0xF5) (hb : isSecondOfFour first b = true) (hd : isTail d = true)
    (he : isTail e = true) :
    String.utf8EncodeChar
      (Char.ofNat (first.toNat % 8 * 262144 + tailBits b * 4096 + tailBits d * 64 + tailBits e)) =
      [first, b, d, e] := by
  have hb := toNat_of_isSecondOfFour hb
  have hd := toNat_of_isTail hd
  have he := toNat_of_isTail he
  simp only [tailBits]
  rw [utf8EncodeChar_charOfNat (by omega), if_neg (by omega), if_neg (by omega), if_neg (by omega),
    ofNat_eq (b := first) (by omega), ofNat_eq (b := b) (by omega), ofNat_eq (b := d) (by omega),
    ofNat_eq (b := e) (by omega)]

/-- A character at the front of some bytes has the bytes that were read. -/
theorem encodeChar_append_of_front {first : UInt8} {rest tail : Bytes} {c : Char}
    (h : front first rest = .char c tail) : String.utf8EncodeChar c ++ tail = first :: rest := by
  unfold front at h
  simp only [UInt8.lt_iff_toNat_lt] at h
  repeat' split at h
  -- a character of one, two, three or four bytes; no other branch reads one
  all_goals cases h
  · rename_i h80
    rw [encodeChar_of_one h80]
    rfl
  · rename_i hC2 hE0 _ b hb
    rw [encodeChar_of_two (Nat.not_lt.mp hC2) hE0 hb]
    rfl
  · rename_i hE0 hF0 _ b hb _ d hd
    rw [encodeChar_of_three (Nat.not_lt.mp hE0) hF0 (by simpa using hb) hd]
    rfl
  · rename_i hF0 hF5 _ b hb _ d hd _ e he
    rw [encodeChar_of_four (Nat.not_lt.mp hF0) hF5 (by simpa using hb) (by simpa using hd) he]
    rfl

/-! ## Texts -/

/-- Reading from the middle on keeps the bytes. -/
theorem encode_of_decodeFrom {index : Nat} {read : List Char} {bytes : Bytes} {s : String}
    (h : decodeFrom index read bytes = .ok s) :
    encode s = read.reverse.flatMap String.utf8EncodeChar ++ bytes := by
  induction hsize : bytes.length using Nat.strongRecOn generalizing index read bytes with
  | ind size ih =>
      cases bytes with
      | nil =>
          rw [decodeFrom] at h
          rw [← Except.ok.inj h, encode, String.toList_ofList, List.append_nil]
      | cons b rest =>
          rw [decodeFrom] at h
          split at h
          · rename_i c tail htaken
            have hless := length_rest_of_front htaken
            have hrest := ih tail.length (by rw [← hsize, List.length_cons]; omega) h rfl
            rw [hrest, List.reverse_cons, List.flatMap_append, List.append_assoc,
              ← encodeChar_append_of_front htaken]
            simp
          · cases h
          · cases h

/-- A text has the bytes from which it was read. -/
theorem encode_of_decode {bytes : Bytes} {s : String} (h : decode bytes = .ok s) :
    encode s = bytes :=
  encode_of_decodeFrom h

end MediaControl.Utf8
