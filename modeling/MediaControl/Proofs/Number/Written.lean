import MediaControl.Number.Natural
import Mathlib.Data.List.Basic

/-!
# Numbers that were written

A number is written in digits alone and read back, if it does not pass the reader's bound; if it
passes it, the reader says so.  Zeros in front make no difference.

Main statements: `read_text` and `read_padded`.
-/

set_option autoImplicit false

namespace MediaControl.Natural

/-! ## Digits -/

theorem digitValue_digitChar {d : Nat} (h : d < 10) : digitValue (Nat.digitChar d) = d :=
  Nat.toNat_digitChar_sub_48_of_lt_ten h

theorem isDigit_of_mem_digits {n : Nat} {c : Char} (h : c ∈ digits n) : c.isDigit = true :=
  Nat.isDigit_of_mem_toDigits (by decide) (by decide) h

theorem digits_ne_nil (n : Nat) : digits n ≠ [] := Nat.toDigits_ne_nil

theorem readFrom_singleton_digit {bound value d : Nat} (h : d < 10) :
    readFrom bound value [Nat.digitChar d] =
      if value * 10 + d ≤ bound then .ok (value * 10 + d) else .error .tooLarge := by
  have hdigit : (Nat.digitChar d).isDigit = true :=
    isDigit_of_mem_digits (n := d) (by simp [digits, Nat.toDigits_of_lt_base h])
  simp only [readFrom, hdigit, digitValue_digitChar h, if_true]

/-! ## Reading what was written -/

/-- The digits of a number are read back up to the bound. -/
theorem readFrom_digits (bound n : Nat) :
    readFrom bound 0 (digits n) = if n ≤ bound then .ok n else .error .tooLarge := by
  induction n using Nat.strongRecOn with
  | ind n ih =>
      by_cases hn : n < 10
      · rw [digits, Nat.toDigits_of_lt_base hn, readFrom_singleton_digit hn]
        simp
      · have hsplit : digits n = digits (n / 10) ++ [Nat.digitChar (n % 10)] :=
          Nat.toDigits_of_base_le (by decide) (by omega)
        have hvalue : n / 10 * 10 + n % 10 = n := by omega
        rw [hsplit, readFrom_append, ih (n / 10) (by omega)]
        by_cases hle : n / 10 ≤ bound
        · rw [if_pos hle, Except.bind, readFrom_singleton_digit (Nat.mod_lt n (by decide)), hvalue]
        · rw [if_neg hle, if_neg (by omega), Except.bind]

/-- What begins with a digit has no sign. -/
theorem readChars_of_isDigit {bound : Nat} {s : List Char} (hne : s ≠ [])
    (hdigits : ∀ c ∈ s, c.isDigit = true) : readChars bound s = readFrom bound 0 s := by
  cases s with
  | nil => exact absurd rfl hne
  | cons c rest =>
      have hplus : c ≠ '+' := by
        rintro rfl
        exact absurd (hdigits '+' (by simp)) (by decide)
      unfold readChars
      split <;> simp_all

/-- The text of a number is read back up to the bound. -/
theorem read_text (bound n : Nat) :
    read bound (text n) = if n ≤ bound then .ok n else .error .tooLarge := by
  rw [read, text, String.toList_ofList,
    readChars_of_isDigit (digits_ne_nil n) fun c => isDigit_of_mem_digits, readFrom_digits]

@[simp] theorem padded_zero (n : Nat) : padded 0 n = text n := by
  rw [padded, Nat.zero_sub, List.replicate_zero, List.nil_append, text]

theorem readFrom_replicate_zero (bound k : Nat) (s : List Char) :
    readFrom bound 0 (List.replicate k '0' ++ s) = readFrom bound 0 s := by
  induction k with
  | zero => rfl
  | succ k ih =>
      have hzero : digitValue '0' = 0 := rfl
      rw [List.replicate_succ, List.cons_append, readFrom, hzero]
      simpa using ih

theorem isDigit_of_mem_padded {width n : Nat} {c : Char} (h : c ∈ (padded width n).toList) :
    c.isDigit = true := by
  rw [padded, String.toList_ofList, List.mem_append] at h
  rcases h with h | h
  · rw [List.eq_of_mem_replicate h]
    rfl
  · exact isDigit_of_mem_digits h

/-- A number with zeros in front is read back up to the bound. -/
theorem read_padded (bound width n : Nat) :
    read bound (padded width n) = if n ≤ bound then .ok n else .error .tooLarge := by
  have hne : (padded width n).toList ≠ [] := by simp [padded, digits_ne_nil]
  rw [read, readChars_of_isDigit hne fun c => isDigit_of_mem_padded, padded,
    String.toList_ofList, readFrom_replicate_zero, readFrom_digits]

theorem length_padded {width n : Nat} (hwidth : 0 < width) (h : n < Nat.pow 10 width) :
    (padded width n).toList.length = width := by
  have hle : (digits n).length ≤ width := (Nat.length_toDigits_le_iff (by decide) hwidth).mpr h
  rw [padded, String.toList_ofList, List.length_append, List.length_replicate]
  omega

end MediaControl.Natural
