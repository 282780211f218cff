import MediaControl.Proofs.Wire.Written
import Mathlib.Order.Bounds.Defs

/-!
# The length field is exact (SPEC_FULL §4.1)

The second word of a message is a promise about bytes that were not written when it was made.  The
writer reckons with the bytes that will stand beside the number and corrects a first guess; what it
promises is kept to the byte.

Main statement: `lengthField_exact`.
-/

set_option autoImplicit false

namespace MediaControl.Wire

theorem space_notMem_encode_text (n : Nat) : (32 : UInt8) ∉ Utf8.encode (Natural.text n) := by
  refine Utf8.notMem_encode (a := ' ') (by decide) fun hmem => ?_
  rw [Natural.text, String.toList_ofList] at hmem
  exact absurd (Natural.isDigit_of_mem_digits hmem) (by decide)

/-- A message begins with the version and its length, each with a space behind it. -/
theorem encode_eq_words (m : Message) : ∃ rest : Bytes,
    m.encode = Utf8.encode protocolVersion ++ 32 ::
      (Utf8.encode (Natural.text m.encode.length) ++ 32 :: rest) := by
  have hspace : Utf8.encode " " = [32] := by decide
  refine ⟨Utf8.encode m.start.tail ++ lineEnd ++ m.rest, ?_⟩
  rw [m.length_encode, Message.length, Message.encode, Message.startLine, lineBytes]
  simp only [Utf8.encode_append, hspace, List.append_assoc, List.cons_append, List.nil_append]

/-- The part of the bytes between the first space and the second. -/
theorem getElem?_splitOnP_encode (m : Message) :
    (m.encode.splitOnP (· = 32))[1]? = some (Utf8.encode (Natural.text m.encode.length)) := by
  obtain ⟨rest, hwords⟩ := encode_eq_words m
  have hversion : (32 : UInt8) ∉ Utf8.encode protocolVersion := by decide
  -- the length is a number like any other to what follows
  generalize hlength : m.encode.length = length at hwords ⊢
  rw [hwords, Text.splitOnP_append_of_notMem hversion,
    Text.splitOnP_append_of_notMem (space_notMem_encode_text length)]
  rfl

/-- Corrections of the first candidate come to an end, at the smallest number that is the sum of the
other bytes and of its own digits; and the second word of every message is the number of all its
bytes. -/
theorem lengthField_exact :
    (∀ others, (∀ length, Settles others (others + 1) length ↔ length = messageLength others) ∧
      IsLeast { length | length = others + digitCount length } (messageLength others)) ∧
    ∀ m : Message,
      (m.encode.splitOnP (· = 32))[1]? = some (Utf8.encode (Natural.text m.encode.length)) := by
  refine ⟨fun others => ⟨fun length => ⟨fun h => ?_, ?_⟩, messageLength_eq others, ?_⟩,
    getElem?_splitOnP_encode⟩
  · exact h.unique (settles_messageLength others)
  · rintro rfl
    exact settles_messageLength others
  · intro length hlength
    exact messageLength_le (Nat.le_of_eq hlength.symm)

end MediaControl.Wire
