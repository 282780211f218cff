import MediaControl.EventName
import MediaControl.Proofs.Text.Words
import MediaControl.RequestState
import Mathlib.Data.List.Nodup

/-!
# Lawful vocabularies

A vocabulary is lawful when its terms are told apart by their forms on the wire, whatever the case of
the letters, and each form is a word.  A term of such a vocabulary is read back from its form.
-/

set_option autoImplicit false

namespace MediaControl

/-- A vocabulary whose terms are told apart by their forms on the wire, which are words. -/
class LawfulVocabulary (α : Type) [Vocabulary α] : Prop where
  mem_all (term : α) : term ∈ (Vocabulary.all : List α)
  nodup_wire : ((Vocabulary.all : List α).map fun term =>
    Text.lowerChars (Vocabulary.wire term).toList).Nodup
  isWord_of_mem (term : α) : term ∈ (Vocabulary.all : List α) → Text.IsWord (Vocabulary.wire term)

namespace Vocabulary

variable {α : Type} [Vocabulary α] [LawfulVocabulary α]

theorem isWord_wire (term : α) : Text.IsWord (wire term) :=
  LawfulVocabulary.isWord_of_mem term (LawfulVocabulary.mem_all term)

theorem eq_of_sameCaseless_wire {term other : α}
    (h : Text.sameCaseless (wire other) (wire term) = true) : other = term :=
  List.inj_on_of_nodup_map LawfulVocabulary.nodup_wire (LawfulVocabulary.mem_all other)
    (LawfulVocabulary.mem_all term) (Text.sameCaseless_iff.mp h)

/-- A term is read back from its form on the wire. -/
theorem ofWire_wire (term : α) : ofWire (wire term) = .ok term := by
  have hfind : (all : List α).find? (fun other =>
      wire term ≠ "" && Text.sameCaseless (wire other) (wire term)) = some term := by
    cases hother : (all : List α).find? (fun other =>
        wire term ≠ "" && Text.sameCaseless (wire other) (wire term)) with
    | none =>
        have hnone := List.find?_eq_none.mp hother term (LawfulVocabulary.mem_all term)
        simp [(isWord_wire term).ne_empty] at hnone
    | some other =>
        have hsame := List.find?_some hother
        simp only [Bool.and_eq_true] at hsame
        rw [eq_of_sameCaseless_wire hsame.2]
  rw [ofWire, hfind]

/-- A text names a term exactly if it is the term's form on the wire, in any case. -/
theorem ofWire_eq_ok_iff {token : String} {term : α} :
    ofWire token = .ok term ↔ Text.sameCaseless (wire term) token = true := by
  constructor
  · intro h
    unfold ofWire at h
    split at h
    · rename_i other hother
      obtain rfl := Except.ok.inj h
      have hfound := List.find?_some hother
      simp only [Bool.and_eq_true] at hfound
      exact hfound.2
    · cases h
  · intro hsame
    have hne : token ≠ "" := by
      rintro rfl
      have hnil : (wire term).toList = [] := by
        simpa [Text.lowerChars] using Text.sameCaseless_iff.mp hsame
      exact (isWord_wire term).ne_empty (String.toList_inj.mp hnil)
    cases hfind : (all : List α).find? (fun other =>
        token ≠ "" && Text.sameCaseless (wire other) token) with
    | none =>
        have hnone := List.find?_eq_none.mp hfind term (LawfulVocabulary.mem_all term)
        simp [hne, hsame] at hnone
    | some other =>
        have hother := List.find?_some hfind
        simp only [Bool.and_eq_true] at hother
        have heq : other = term := by
          rw [Text.sameCaseless_comm] at hsame
          exact eq_of_sameCaseless_wire (Text.sameCaseless_trans hother.2 hsame)
        rw [ofWire, hfind, heq]

end Vocabulary

/-! ## The vocabularies of start lines -/

instance (s : String) : Decidable (Text.IsWord s) :=
  -- the characters of the word are looked at, not every character there is
  decidable_of_iff (s ≠ "" ∧ (s.toList.all fun c => !Text.isBlank c) = true)
    ⟨fun h => ⟨h.1, Text.all_not_isBlank_iff.mp h.2⟩,
      fun h => ⟨h.ne_empty, Text.all_not_isBlank_iff.mpr h.isBlank_eq_false⟩⟩

instance : LawfulVocabulary Method where
  mem_all term := by cases term <;> decide
  nodup_wire := by decide +kernel
  isWord_of_mem := by decide +kernel

instance : LawfulVocabulary EventName where
  mem_all term := by cases term <;> decide
  nodup_wire := by decide +kernel
  isWord_of_mem := by decide +kernel

instance : LawfulVocabulary RequestState where
  mem_all term := by cases term <;> decide
  nodup_wire := by decide +kernel
  isWord_of_mem := by decide +kernel

end MediaControl
