import MediaControl.Proofs.Wire.Length

/-!
# Numbers that were read

A number that was read keeps to the reader's bound, and has no more digits than the text from which it
was read has characters.  What is read as a number is what is written as one, up to the bound.

Main statements: `le_of_read`, `digitCount_le_of_read` and `read_eq_ok_iff`.
-/

set_option autoImplicit false

namespace MediaControl.Natural

theorem digitValue_lt {c : Char} (h : c.isDigit = true) : digitValue c < 10 := by
  simp only [Char.isDigit, Bool.and_eq_true, decide_eq_true_eq] at h
  have hhigh : c.toNat ≤ 57 := h.2
  have hzero : '0'.toNat = 48 := rfl
  rw [digitValue, hzero]
  omega

/-- Digits that were read behind a number make a number within the bound, with so many digits more. -/
theorem readFrom_bounds {bound value n : Nat} {s : List Char} (hvalue : value ≤ bound)
    (h : readFrom bound value s = .ok n) : n ≤ bound ∧ n < (value + 1) * Nat.pow 10 s.length := by
  induction s generalizing value with
  | nil =>
      obtain rfl := Except.ok.inj h
      exact ⟨hvalue, by simp⟩
  | cons c s ih =>
      rw [readFrom] at h
      split at h
      · rename_i hc
        split at h
        · rename_i hle
          obtain ⟨hbound, hlt⟩ := ih hle h
          refine ⟨hbound, Nat.lt_of_lt_of_le hlt ?_⟩
          have hdigit := digitValue_lt hc
          calc (value * 10 + digitValue c + 1) * Nat.pow 10 s.length
              ≤ ((value + 1) * 10) * Nat.pow 10 s.length := Nat.mul_le_mul_right _ (by omega)
            _ = (value + 1) * (Nat.pow 10 s.length * 10) := by
                rw [Nat.mul_assoc, Nat.mul_comm 10]
        · cases h
      · cases h

/-- What was read stands behind a plus sign or alone, and is not nothing. -/
theorem readFrom_of_read {bound n : Nat} {s : String} (h : read bound s = .ok n) :
    ∃ digits, digits ≠ [] ∧ digits.length ≤ s.toList.length ∧ readFrom bound 0 digits = .ok n := by
  unfold read readChars at h
  split at h
  · cases h
  · cases h
  · rename_i rest hlone hs
    refine ⟨rest, ?_, ?_, h⟩
    · rintro rfl
      exact hlone rfl
    · rw [hs]
      exact Nat.le_succ _
  · rename_i hnil _ _
    exact ⟨s.toList, hnil, Nat.le_refl _, h⟩

theorem le_of_read {bound n : Nat} {s : String} (h : read bound s = .ok n) : n ≤ bound := by
  obtain ⟨digits, -, -, hread⟩ := readFrom_of_read h
  exact (readFrom_bounds (Nat.zero_le _) hread).1

/-- A number has no more digits than the text from which it was read has characters. -/
theorem digitCount_le_of_read {bound n : Nat} {s : String} (h : read bound s = .ok n) :
    Wire.digitCount n ≤ s.toList.length := by
  obtain ⟨digits, hne, hlength, hread⟩ := readFrom_of_read h
  have hlt := (readFrom_bounds (Nat.zero_le _) hread).2
  rw [Nat.zero_add, Nat.one_mul] at hlt
  have hcount : Wire.digitCount n ≤ digits.length :=
    (Wire.digitCount_le_iff (List.length_pos_iff.mpr hne)).mpr hlt
  exact Nat.le_trans hcount hlength

/-! ## What is read as a number -/

/-- The value of digits behind a number, the most significant first. -/
def valueFrom (value : Nat) (digits : List Char) : Nat :=
  digits.foldl (fun value c => value * 10 + digitValue c) value

/-- The text of a number: digits, perhaps with a plus sign before them. -/
def IsNumeral (s : String) (n : Nat) : Prop :=
  ∃ digits, (s.toList = digits ∨ s.toList = '+' :: digits) ∧ digits ≠ [] ∧
    (∀ c ∈ digits, c.isDigit = true) ∧ valueFrom 0 digits = n

theorem le_valueFrom (value : Nat) (digits : List Char) : value ≤ valueFrom value digits := by
  induction digits generalizing value with
  | nil => exact Nat.le_refl _
  | cons c digits ih => exact Nat.le_trans (by omega) (ih (value * 10 + digitValue c))

theorem readFrom_eq_ok_iff {bound value n : Nat} {s : List Char} (hvalue : value ≤ bound) :
    readFrom bound value s = .ok n ↔
      (∀ c ∈ s, c.isDigit = true) ∧ valueFrom value s = n ∧ n ≤ bound := by
  induction s generalizing value with
  | nil =>
      rw [readFrom, Except.ok.injEq]
      constructor
      · rintro rfl
        exact ⟨by simp, rfl, hvalue⟩
      · rintro ⟨-, hn, -⟩
        exact hn
  | cons c s ih =>
      have hcons : valueFrom value (c :: s) = valueFrom (value * 10 + digitValue c) s := rfl
      rw [readFrom, List.forall_mem_cons, hcons]
      split
      · rename_i hc
        split
        · rename_i hle
          rw [ih hle]
          simp [hc]
        · -- the digits behind it only make the number larger
          rename_i hle
          refine iff_of_false (fun hok => by cases hok) ?_
          rintro ⟨-, rfl, hbound⟩
          exact hle (Nat.le_trans (le_valueFrom _ s) hbound)
      · rename_i hc
        exact iff_of_false (fun hok => by cases hok) fun h => hc h.1.1

/-- A text is read as a number exactly if it is the text of one within the bound. -/
theorem read_eq_ok_iff {bound n : Nat} {s : String} :
    read bound s = .ok n ↔ IsNumeral s n ∧ n ≤ bound := by
  have hplus : '+'.isDigit = false := by decide
  unfold read readChars IsNumeral
  split
  · rename_i hs
    refine iff_of_false (fun hok => by cases hok) ?_
    rintro ⟨⟨digits, hdigits, hne, -⟩, -⟩
    rw [hs] at hdigits
    rcases hdigits with rfl | hdigits
    · exact hne rfl
    · cases hdigits
  · rename_i hs
    refine iff_of_false (fun hok => by cases hok) ?_
    rintro ⟨⟨digits, hdigits, hne, hall, -⟩, -⟩
    rw [hs] at hdigits
    rcases hdigits with rfl | hdigits
    · exact Bool.noConfusion (hplus.symm.trans (hall '+' (by simp)))
    · exact hne (List.cons.inj hdigits).2.symm
  · rename_i rest hlone hs
    have hne : rest ≠ [] := fun hnil => hlone hnil
    rw [readFrom_eq_ok_iff (Nat.zero_le _), hs]
    constructor
    · rintro ⟨hall, hn, hbound⟩
      exact ⟨⟨rest, Or.inr rfl, hne, hall, hn⟩, hbound⟩
    · rintro ⟨⟨digits, rfl | hdigits, -, hall, hn⟩, hbound⟩
      · exact Bool.noConfusion (hplus.symm.trans (hall '+' (by simp)))
      · obtain ⟨-, rfl⟩ := List.cons.inj hdigits
        exact ⟨hall, hn, hbound⟩
  · rename_i hnil _ hsign
    rw [readFrom_eq_ok_iff (Nat.zero_le _)]
    constructor
    · rintro ⟨hall, hn, hbound⟩
      exact ⟨⟨s.toList, Or.inl rfl, hnil, hall, hn⟩, hbound⟩
    · rintro ⟨⟨digits, rfl | hdigits, -, hall, hn⟩, hbound⟩
      · exact ⟨hall, hn, hbound⟩
      · exact absurd hdigits (hsign digits)

end MediaControl.Natural
