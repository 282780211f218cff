import MediaControl.Wire.Stream
import Mathlib.Data.List.Basic

/-!
# Where a head ends

The reader of a head goes from byte to byte, and all it keeps is how far the line under its eye has
come.  So lines that are not empty are passed over, and what was decided about some bytes stays
decided when more bytes arrive.

Main statements: `headLengthFrom_line`, `headLength_append_of_some` and
`length_lt_of_headLength_append`.
-/

set_option autoImplicit false

namespace MediaControl.Wire

/-! ## One byte -/

/-- How far the line has come behind a byte that does not end it. -/
def LineState.after (state : LineState) (b : UInt8) : LineState :=
  if b = 13 && state = .start then .return else .inside

theorem headLengthFrom_cons {b : UInt8} (hb : b ≠ 10) (seen : Nat) (state : LineState)
    (rest : Bytes) :
    headLengthFrom seen state (b :: rest) = headLengthFrom (seen + 1) (state.after b) rest := by
  cases state <;> simp only [headLengthFrom, if_neg hb, LineState.after] <;> split <;> rfl

theorem headLengthFrom_lineFeed (seen : Nat) (state : LineState) (rest : Bytes) :
    headLengthFrom seen state (10 :: rest) =
      if state = .inside then headLengthFrom (seen + 1) .start rest else some (seen + 1) := by
  cases state <;> rfl

/-! ## Lines -/

/-- A line that is not empty is passed over. -/
theorem headLengthFrom_line {state : LineState} {line : Bytes} (hline : (10 : UInt8) ∉ line)
    (hne : state = .inside ∨ line ≠ []) (seen : Nat) (rest : Bytes) :
    headLengthFrom seen state (line ++ 13 :: 10 :: rest) =
      headLengthFrom (seen + line.length + 2) .start rest := by
  induction line generalizing seen state with
  | nil =>
      rcases hne with rfl | hne
      · rfl
      · exact absurd rfl hne
  | cons b line ih =>
      have hb : b ≠ 10 := fun heq => hline (heq ▸ List.mem_cons_self ..)
      have hrest : (10 : UInt8) ∉ line := fun hmem => hline (List.mem_cons_of_mem _ hmem)
      have hlength : seen + (b :: line).length + 2 = seen + 1 + line.length + 2 := by
        rw [List.length_cons]
        omega
      rw [List.cons_append, headLengthFrom_cons hb, hlength]
      by_cases hopen : state.after b = .inside ∨ line ≠ []
      · exact ih hrest hopen (seen + 1)
      · -- the line is a lone carriage return; the one that follows it is not its end
        obtain ⟨hstate, hnil⟩ := not_or.mp hopen
        obtain rfl : line = [] := by simpa using hnil
        have hreturn : state.after b = .return := by
          unfold LineState.after at hstate ⊢
          split <;> simp_all
        rw [hreturn]
        rfl

/-! ## More bytes -/

/-- A head that is there stays there. -/
theorem headLengthFrom_append {seen n : Nat} {state : LineState} {bytes : Bytes}
    (h : headLengthFrom seen state bytes = some n) (more : Bytes) :
    headLengthFrom seen state (bytes ++ more) = some n := by
  induction bytes generalizing seen state with
  | nil => simp [headLengthFrom] at h
  | cons b rest ih =>
      rw [List.cons_append]
      by_cases hb : b = 10
      · subst hb
        rw [headLengthFrom_lineFeed] at h ⊢
        split at h
        · rename_i hinside
          rw [if_pos hinside]
          exact ih h
        · rename_i hends
          rw [if_neg hends]
          exact h
      · rw [headLengthFrom_cons hb] at h ⊢
        exact ih h

/-- A head that is not there yet will end behind all that is there. -/
theorem length_lt_of_headLengthFrom_append {seen n : Nat} {state : LineState} {bytes more : Bytes}
    (hnone : headLengthFrom seen state bytes = none)
    (h : headLengthFrom seen state (bytes ++ more) = some n) : seen + bytes.length < n := by
  induction bytes generalizing seen state with
  | nil => exact (headLengthFrom_bounds h).1
  | cons b rest ih =>
      have hlength : seen + (b :: rest).length = seen + 1 + rest.length := by
        rw [List.length_cons]
        omega
      rw [List.cons_append] at h
      rw [hlength]
      by_cases hb : b = 10
      · subst hb
        rw [headLengthFrom_lineFeed] at h hnone
        split at hnone
        · rename_i hinside
          rw [if_pos hinside] at h
          exact ih hnone h
        · cases hnone
      · rw [headLengthFrom_cons hb] at h hnone
        exact ih hnone h

theorem headLength_append_of_some {n : Nat} {bytes : Bytes} (h : headLength bytes = some n)
    (more : Bytes) : headLength (bytes ++ more) = some n :=
  headLengthFrom_append h more

theorem length_lt_of_headLength_append {n : Nat} {bytes more : Bytes}
    (hnone : headLength bytes = none) (h : headLength (bytes ++ more) = some n) :
    bytes.length < n := by
  have hlt := length_lt_of_headLengthFrom_append hnone h
  rwa [Nat.zero_add] at hlt

theorem headLength_le {n : Nat} {bytes : Bytes} (h : headLength bytes = some n) :
    n ≤ bytes.length := by
  have hbounds := headLengthFrom_bounds h
  omega

end MediaControl.Wire
