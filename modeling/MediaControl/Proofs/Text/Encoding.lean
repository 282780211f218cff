import MediaControl.Text.Utf8
import Mathlib.Data.List.Basic

/-!
# Text as bytes

What a text becomes on the wire, and that nothing is lost on the way.  A character is one byte up to
the end of ASCII and two to four bytes beyond it, all of them marked, so a line feed among the bytes
is a line feed of the text.

Main statements: `decode_encode` (a text is read back from its bytes) and `lineFeed_notMem_encode`
(a text of one line has bytes of one line).
-/

set_option autoImplicit false

namespace MediaControl.Utf8

/-! ## Single bytes -/

theorem toNat_ofNat_of_lt {n : Nat} (h : n < 256) : (UInt8.ofNat n).toNat = n := by
  rw [UInt8.toNat_ofNat', Nat.mod_eq_of_lt h]

theorem isTail_ofNat (n : Nat) : isTail (UInt8.ofNat (n % 64 + 128)) = true := by
  have h := toNat_ofNat_of_lt (n := n % 64 + 128) (by omega)
  simp only [isTail, Bool.and_eq_true, decide_eq_true_eq, UInt8.le_iff_toNat_le, h]
  simp
  omega

theorem tailBits_ofNat (n : Nat) : tailBits (UInt8.ofNat (n % 64 + 128)) = n % 64 := by
  rw [tailBits, toNat_ofNat_of_lt (by omega)]
  omega

/-! ## Characters of one to four bytes

In each case the first byte selects the branch of `front`, the marks of the others let it pass, and
the payloads add up to the code point again. -/

theorem front_one {v : Nat} (h : v ≤ 0x7F) (rest : Bytes) :
    front (UInt8.ofNat v) rest = .char (Char.ofNat v) rest := by
  have hv := toNat_ofNat_of_lt (n := v) (by omega)
  simp only [front, UInt8.lt_iff_toNat_lt, hv]
  rw [if_pos (show v < _ by simp; omega)]

theorem front_two {v : Nat} (hlow : 0x7F < v) (hhigh : v ≤ 0x7FF) (rest : Bytes) :
    front (UInt8.ofNat (v / 64 % 32 + 192)) (UInt8.ofNat (v % 64 + 128) :: rest) =
      .char (Char.ofNat v) rest := by
  have hfirst := toNat_ofNat_of_lt (n := v / 64 % 32 + 192) (by omega)
  have hvalue : (v / 64 % 32 + 192) % 32 * 64 + v % 64 = v := by omega
  have h80 : ¬ v / 64 % 32 + 192 < (0x80 : UInt8).toNat := by simp
  have hC2 : ¬ v / 64 % 32 + 192 < (0xC2 : UInt8).toNat := by simp; omega
  have hE0 : v / 64 % 32 + 192 < (0xE0 : UInt8).toNat := by simp; omega
  simp only [front, UInt8.lt_iff_toNat_lt, hfirst, if_neg h80, if_neg hC2, if_pos hE0,
    isTail_ofNat, tailBits_ofNat, if_true, hvalue]

theorem isSecondOfThree_ofNat {v : Nat} (hlow : 0x7FF < v) (hhigh : v ≤ 0xFFFF)
    (hvalid : v < 0xD800 ∨ 0xDFFF < v) :
    isSecondOfThree (UInt8.ofNat (v / 4096 % 16 + 224)) (UInt8.ofNat (v / 64 % 64 + 128)) = true := by
  have hfirst := toNat_ofNat_of_lt (n := v / 4096 % 16 + 224) (by omega)
  have hsecond := toNat_ofNat_of_lt (n := v / 64 % 64 + 128) (by omega)
  simp only [isSecondOfThree, ← UInt8.toNat_inj, hfirst, UInt8.le_iff_toNat_le, hsecond,
    isTail_ofNat]
  simp
  split
  · omega
  · omega

theorem front_three {v : Nat} (hlow : 0x7FF < v) (hhigh : v ≤ 0xFFFF)
    (hvalid : v < 0xD800 ∨ 0xDFFF < v) (rest : Bytes) :
    front (UInt8.ofNat (v / 4096 % 16 + 224))
      (UInt8.ofNat (v / 64 % 64 + 128) :: UInt8.ofNat (v % 64 + 128) :: rest) =
      .char (Char.ofNat v) rest := by
  have hfirst := toNat_ofNat_of_lt (n := v / 4096 % 16 + 224) (by omega)
  have hsecond := isSecondOfThree_ofNat hlow hhigh hvalid
  have hvalue : (v / 4096 % 16 + 224) % 16 * 4096 + v / 64 % 64 * 64 + v % 64 = v := by omega
  have h80 : ¬ v / 4096 % 16 + 224 < (0x80 : UInt8).toNat := by simp
  have hC2 : ¬ v / 4096 % 16 + 224 < (0xC2 : UInt8).toNat := by simp
  have hE0 : ¬ v / 4096 % 16 + 224 < (0xE0 : UInt8).toNat := by simp
  have hF0 : v / 4096 % 16 + 224 < (0xF0 : UInt8).toNat := by simp; omega
  simp only [front, UInt8.lt_iff_toNat_lt, hfirst, if_neg h80, if_neg hC2, if_neg hE0, if_pos hF0,
    hsecond, Bool.not_true, Bool.false_eq_true, if_false, isTail_ofNat, tailBits_ofNat, if_true,
    hvalue]

theorem isSecondOfFour_ofNat {v : Nat} (hlow : 0xFFFF < v) (hhigh : v < 0x110000) :
    isSecondOfFour (UInt8.ofNat (v / 262144 % 8 + 240)) (UInt8.ofNat (v / 4096 % 64 + 128)) =
      true := by
  have hfirst := toNat_ofNat_of_lt (n := v / 262144 % 8 + 240) (by omega)
  have hsecond := toNat_ofNat_of_lt (n := v / 4096 % 64 + 128) (by omega)
  simp only [isSecondOfFour, ← UInt8.toNat_inj, hfirst, UInt8.le_iff_toNat_le, hsecond,
    isTail_ofNat]
  simp
  split
  · omega
  · omega

theorem front_four {v : Nat} (hlow : 0xFFFF < v) (hhigh : v < 0x110000) (rest : Bytes) :
    front (UInt8.ofNat (v / 262144 % 8 + 240))
      (UInt8.ofNat (v / 4096 % 64 + 128) :: UInt8.ofNat (v / 64 % 64 + 128) ::
        UInt8.ofNat (v % 64 + 128) :: rest) =
      .char (Char.ofNat v) rest := by
  have hfirst := toNat_ofNat_of_lt (n := v / 262144 % 8 + 240) (by omega)
  have hsecond := isSecondOfFour_ofNat hlow hhigh
  have hvalue : (v / 262144 % 8 + 240) % 8 * 262144 + v / 4096 % 64 * 4096 + v / 64 % 64 * 64
      + v % 64 = v := by omega
  have h80 : ¬ v / 262144 % 8 + 240 < (0x80 : UInt8).toNat := by simp
  have hC2 : ¬ v / 262144 % 8 + 240 < (0xC2 : UInt8).toNat := by simp
  have hE0 : ¬ v / 262144 % 8 + 240 < (0xE0 : UInt8).toNat := by simp
  have hF0 : ¬ v / 262144 % 8 + 240 < (0xF0 : UInt8).toNat := by simp
  have hF5 : v / 262144 % 8 + 240 < (0xF5 : UInt8).toNat := by simp; omega
  simp only [front, UInt8.lt_iff_toNat_lt, hfirst, if_neg h80, if_neg hC2, if_neg hE0, if_neg hF0,
    if_pos hF5, hsecond, Bool.not_true, Bool.false_eq_true, if_false, isTail_ofNat, tailBits_ofNat,
    if_true, hvalue]

/-- The bytes of a character are read as that character, whatever follows them. -/
theorem front_utf8EncodeChar (c : Char) (rest : Bytes) :
    ∃ b tail, String.utf8EncodeChar c = b :: tail ∧ front b (tail ++ rest) = .char c rest := by
  have hvalid : c.toNat < 0xD800 ∨ 0xDFFF < c.toNat ∧ c.toNat < 0x110000 := c.valid
  have hval : c.val.toNat = c.toNat := rfl
  have hchar : Char.ofNat c.toNat = c := Char.ofNat_toNat c
  simp only [String.utf8EncodeChar, hval]
  split
  · exact ⟨_, _, rfl, by rw [List.nil_append, front_one ‹_› rest, hchar]⟩
  · split
    · refine ⟨_, _, rfl, ?_⟩
      exact (front_two (by omega) ‹_› rest).trans (by rw [hchar])
    · split
      · refine ⟨_, _, rfl, ?_⟩
        exact (front_three (by omega) ‹_› (by omega) rest).trans (by rw [hchar])
      · refine ⟨_, _, rfl, ?_⟩
        exact (front_four (by omega) (by omega) rest).trans (by rw [hchar])

/-! ## Texts -/

/-- Reading the bytes of some characters goes on behind them. -/
theorem decodeFrom_append (chars : List Char) (index : Nat) (read : List Char) (rest : Bytes) :
    decodeFrom index read (chars.flatMap String.utf8EncodeChar ++ rest) =
      decodeFrom (index + (chars.flatMap String.utf8EncodeChar).length) (chars.reverse ++ read)
        rest := by
  induction chars generalizing index read with
  | nil => simp
  | cons c chars ih =>
      obtain ⟨b, tail, hbytes, hfront⟩ :=
        front_utf8EncodeChar c (chars.flatMap String.utf8EncodeChar ++ rest)
      rw [List.flatMap_cons, hbytes, List.append_assoc, List.cons_append, decodeFrom]
      split <;> rename_i heq <;> rw [hfront] at heq
      · obtain ⟨rfl, rfl⟩ := Front.char.inj heq
        have hsize : c.utf8Size = tail.length + 1 := by
          rw [← String.length_utf8EncodeChar, hbytes, List.length_cons]
        rw [ih, hsize, List.reverse_cons, List.append_assoc, List.singleton_append,
          List.length_append, List.length_cons, Nat.add_assoc]
      · cases heq
      · cases heq

/-- A text is read back from its bytes. -/
@[simp] theorem decode_encode (s : String) : decode (encode s) = .ok s := by
  have h := decodeFrom_append s.toList 0 [] []
  rw [List.append_nil] at h
  rw [decode, encode, h, decodeFrom]
  simp

theorem encode_injective : Function.Injective encode := fun s t h =>
  Except.ok.inj (by rw [← decode_encode s, h, decode_encode])

/-- A character beyond ASCII has only bytes beyond ASCII. -/
theorem le_toNat_of_mem_utf8EncodeChar {c : Char} {b : UInt8} (hc : 128 ≤ c.toNat)
    (hb : b ∈ String.utf8EncodeChar c) : 128 ≤ b.toNat := by
  have hval : c.val.toNat = c.toNat := rfl
  have hmarked : ∀ m, m < 120 → 128 ≤ (UInt8.ofNat (m + 128)).toNat := by
    intro m hm
    rw [toNat_ofNat_of_lt (by omega)]
    omega
  simp only [String.utf8EncodeChar, hval] at hb
  split at hb
  · omega
  · split at hb
    · simp only [List.mem_cons, List.not_mem_nil, or_false] at hb
      rcases hb with rfl | rfl
      · exact hmarked (c.toNat / 64 % 32 + 64) (by omega)
      · exact hmarked _ (by omega)
    · split at hb
      · simp only [List.mem_cons, List.not_mem_nil, or_false] at hb
        rcases hb with rfl | rfl | rfl
        · exact hmarked (c.toNat / 4096 % 16 + 96) (by omega)
        · exact hmarked _ (by omega)
        · exact hmarked _ (by omega)
      · simp only [List.mem_cons, List.not_mem_nil, or_false] at hb
        rcases hb with rfl | rfl | rfl | rfl
        · exact hmarked (c.toNat / 262144 % 8 + 112) (by omega)
        · exact hmarked _ (by omega)
        · exact hmarked _ (by omega)
        · exact hmarked _ (by omega)

/-- Among the bytes of a text there is that of an ASCII character only if the text has the character. -/
theorem notMem_encode {a : Char} (ha : a.toNat < 128) {s : String} (h : a ∉ s.toList) :
    UInt8.ofNat a.toNat ∉ encode s := by
  intro hmem
  obtain ⟨c, hc, hb⟩ := List.mem_flatMap.mp hmem
  by_cases hascii : 128 ≤ c.toNat
  · have hhigh := le_toNat_of_mem_utf8EncodeChar hascii hb
    rw [toNat_ofNat_of_lt (by omega)] at hhigh
    omega
  · have hone : String.utf8EncodeChar c = [UInt8.ofNat c.toNat] := by
      simp only [String.utf8EncodeChar]
      rw [if_pos (show c.val.toNat ≤ 0x7F from Nat.le_of_lt_succ (Nat.not_le.mp hascii))]
      rfl
    rw [hone, List.mem_singleton] at hb
    have hvalue := congrArg UInt8.toNat hb
    rw [toNat_ofNat_of_lt (by omega), toNat_ofNat_of_lt (by omega)] at hvalue
    exact h (Char.toNat_inj.mp hvalue ▸ hc)

/-- Among the bytes of a text there is a line feed only if the text has one. -/
theorem lineFeed_notMem_encode {s : String} (h : '\n' ∉ s.toList) : (10 : UInt8) ∉ encode s :=
  notMem_encode (a := '\n') (by decide) h

@[simp] theorem encode_append (s t : String) : encode (s ++ t) = encode s ++ encode t := by
  simp [encode]

end MediaControl.Utf8
