import MediaControl.Header.Cause
import MediaControl.Proofs.Number.Written
import MediaControl.Proofs.Text.Tokens

/-!
# Completion causes as text (SPEC_FULL §3, §4.2)

A cause is made of a code and a name that is one word, blanks at its ends apart.  Its text is read as the
same code and that word.

Main statements: `parse_eq_ok_iff` (which texts say a cause) and `parse_wire`.
-/

set_option autoImplicit false

namespace MediaControl.CompletionCause

/-- A cause is made of a code of at most three digits and a name that is one word, blanks at its ends
apart. -/
theorem new_eq_ok_iff {code : Nat} {name : String} {c : CompletionCause} :
    new code name = .ok c ↔ c.code = code ∧ c.name = name ∧ Text.IsWord (Text.trim name) := by
  unfold new
  split
  · rename_i hcode
    simp only
    split
    · rename_i hempty
      refine iff_of_false (fun h => by cases h) ?_
      rintro ⟨-, -, hword⟩
      exact hword.ne_empty hempty
    · rename_i hne
      split
      · rename_i hblank
        refine iff_of_false (fun h => by cases h) ?_
        rintro ⟨-, -, hword⟩
        obtain ⟨b, hb, hblank⟩ := List.any_eq_true.mp hblank
        rw [hword.isBlank_eq_false b hb] at hblank
        cases hblank
      · rename_i hnone
        have hword : Text.IsWord (Text.trim name) := ⟨hne, by simpa using hnone⟩
        rw [Except.ok.injEq]
        constructor
        · rintro rfl
          exact ⟨rfl, rfl, hword⟩
        · rintro ⟨rfl, rfl, -⟩
          rfl
  · rename_i hcode
    refine iff_of_false (fun h => by cases h) ?_
    rintro ⟨rfl, -⟩
    exact hcode c.code_le

/-- A text says a cause exactly if it has one space, behind the code and before the name. -/
theorem parse_eq_ok_iff {raw : String} {c : CompletionCause} :
    parse raw = .ok c ↔ ∃ code name : List Char, raw.toList = code ++ ' ' :: name ∧ ' ' ∉ code ∧
      ' ' ∉ name ∧ Natural.readChars Natural.max16 code = .ok c.code ∧ c.name = String.ofList name ∧
      Text.IsWord (Text.trim c.name) := by
  refine Text.iff_exists_pair (fun front back hsplit => ?_) (fun hsplit h => ?_)
  · rw [parse, hsplit]
    simp only
    split
    · rename_i code hcode
      rw [new_eq_ok_iff, hcode, Except.ok.injEq, eq_comm (a := c.code)]
      refine and_congr_right fun _ => and_congr_right fun hname => ?_
      rw [hname]
    · rename_i fault hfault
      rw [hfault]
      exact iff_of_false (fun h => by cases h) (fun h => by cases h.1)
  · unfold parse at h
    split at h
    · rename_i front back hpair
      exact hsplit front back hpair
    · cases h

/-- The cause as its text says it: the name without the blanks at its ends. -/
def plain (c : CompletionCause) : CompletionCause := { c with name := Text.trim c.name }

@[simp] theorem wire_plain (c : CompletionCause) : c.plain.wire = c.wire := by
  rw [wire, wire, plain, Text.trim_trim]

/-- A cause whose name is one word is read back from its text. -/
theorem parse_wire {c : CompletionCause} (h : Text.IsWord (Text.trim c.name)) :
    parse c.wire = .ok c.plain := by
  have hspace : Text.isBlank ' ' = true := by decide
  have hcode : ' ' ∉ (Natural.padded 3 c.code).toList := fun hmem =>
    absurd (Natural.isDigit_of_mem_padded hmem) (by decide)
  have hname : ' ' ∉ (Text.trim c.name).toList := by
    intro hmem
    rw [h.isBlank_eq_false ' ' hmem] at hspace
    cases hspace
  have hread : Natural.readChars Natural.max16 (Natural.padded 3 c.code).toList = .ok c.code := by
    have hle : c.code ≤ Natural.max16 := Nat.le_trans c.code_le (by decide)
    have hback := Natural.read_padded Natural.max16 3 c.code
    rwa [if_pos hle] at hback
  refine parse_eq_ok_iff.mpr ⟨_, (Text.trim c.name).toList, ?_, hcode, hname, hread, ?_, ?_⟩
  · simp [wire]
  · rw [String.ofList_toList]
    rfl
  · rw [plain, Text.trim_trim]
    exact h

end MediaControl.CompletionCause
