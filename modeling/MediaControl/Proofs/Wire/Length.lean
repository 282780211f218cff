import MediaControl.Wire.Length
import Mathlib.Data.Nat.Log

/-!
# The length of a message counts itself

Correcting a candidate adds a digit to it or ends, and there are only so many digits to add.  So the
candidate at which the corrections end is one that needs none: a sum of the other bytes and of its own
digits.

Main statements: `settles_messageLength` (the corrections end), `messageLength_eq` and
`messageLength_le`.
-/

set_option autoImplicit false

namespace MediaControl.Wire

/-- A number has at most `k` digits exactly if it is below the `k`-th power of ten. -/
theorem digitCount_le_iff {n k : Nat} (hk : 0 < k) : digitCount n ≤ k ↔ n < Nat.pow 10 k :=
  Nat.length_toDigits_le_iff (by decide) hk

theorem digitCount_pos (n : Nat) : 0 < digitCount n := Nat.length_toDigits_pos

theorem digitCount_mono {m n : Nat} (h : m ≤ n) : digitCount m ≤ digitCount n := by
  have hn : n < 10 ^ digitCount n := (digitCount_le_iff (digitCount_pos n)).mp (Nat.le_refl _)
  exact (digitCount_le_iff (digitCount_pos n)).mpr (Nat.lt_of_le_of_lt h hn)

/-- Behind as many bytes as this the length takes one digit more than they do, at the most. -/
theorem digitCount_add_le (others : Nat) {k : Nat} (hk : k ≤ digitCount others + 1) :
    digitCount (others + k) ≤ digitCount others + 1 := by
  have hothers : others < 10 ^ digitCount others :=
    (digitCount_le_iff (digitCount_pos others)).mp (Nat.le_refl _)
  have hgrowth : digitCount others < 10 ^ digitCount others := Nat.lt_pow_self (by decide)
  refine (digitCount_le_iff (Nat.succ_pos _)).mpr ?_
  calc others + k < 10 ^ digitCount others + 10 ^ digitCount others + 1 := by omega
    _ ≤ 10 ^ (digitCount others + 1) := by rw [Nat.pow_succ]; omega

/-! ## Corrections come to an end -/

/-- Correcting the candidate, for as long as its digits make another length of it, ends at `length`. -/
inductive Settles (others : Nat) : Nat → Nat → Prop
  | fixed {candidate : Nat} (hfixed : others + digitCount candidate = candidate) :
      Settles others candidate candidate
  | corrected {candidate length : Nat} (hmoved : others + digitCount candidate ≠ candidate)
      (hrest : Settles others (others + digitCount candidate) length) :
      Settles others candidate length

/-- Where corrections end there is nothing to correct. -/
theorem Settles.length_eq {others candidate length : Nat} (h : Settles others candidate length) :
    length = others + digitCount length := by
  induction h with
  | fixed hfixed => exact hfixed.symm
  | corrected _ _ ih => exact ih

/-- Corrections end at one length only. -/
theorem Settles.unique {others candidate length other : Nat} (h : Settles others candidate length)
    (h' : Settles others candidate other) : length = other := by
  induction h with
  | fixed hfixed =>
      cases h' with
      | fixed => rfl
      | corrected hmoved => exact absurd hfixed hmoved
  | corrected hmoved _ ih =>
      cases h' with
      | fixed hfixed => exact absurd hfixed hmoved
      | corrected _ hrest => exact ih hrest

/-- So many corrections as there are digits to add are enough.  The candidate is `others + k`, where
`k` is at most the number of its digits, and every correction that is needed raises `k`. -/
theorem settles_settle (others fuel k : Nat) (hk : k ≤ digitCount (others + k))
    (hbound : k ≤ digitCount others + 1) (hfuel : digitCount others + 2 ≤ k + fuel) :
    Settles others (others + k) (settle others fuel (others + k)) := by
  induction fuel generalizing k with
  | zero => omega
  | succ fuel ih =>
      rw [settle]
      split
      · rename_i hfixed
        exact .fixed hfixed
      · rename_i hmoved
        have hgrows : k < digitCount (others + k) := by omega
        refine .corrected hmoved (ih _ ?_ (digitCount_add_le others hbound) (by omega))
        exact digitCount_mono (by omega)

/-- The length of a message is where the corrections of the first candidate end. -/
theorem settles_messageLength (others : Nat) :
    Settles others (others + 1) (messageLength others) :=
  settles_settle others _ 1 (digitCount_pos _) (by omega) (by omega)

/-- The length of a message is the sum of its other bytes and of its own digits. -/
theorem messageLength_eq (others : Nat) :
    messageLength others = others + digitCount (messageLength others) :=
  (settles_messageLength others).length_eq

/-! ## The smallest length -/

/-- Corrections stay below every number that has room for the other bytes and its own digits. -/
theorem settle_le {others n : Nat} (hn : others + digitCount n ≤ n) (fuel : Nat) {candidate : Nat}
    (hcandidate : candidate ≤ n) : settle others fuel candidate ≤ n := by
  induction fuel generalizing candidate with
  | zero => exact hcandidate
  | succ fuel ih =>
      have hdigits := digitCount_mono hcandidate
      rw [settle]
      split
      · exact hcandidate
      · exact ih (by omega)

/-- The length of a message is the smallest number that has room for its other bytes and its own
digits. -/
theorem messageLength_le {others n : Nat} (hn : others + digitCount n ≤ n) :
    messageLength others ≤ n := by
  have hpos := digitCount_pos n
  exact settle_le hn _ (by omega)

-- there may be two numbers that are such sums
example : messageLength 97 = 99 ∧ 97 + digitCount 100 = 100 := by decide

end MediaControl.Wire
