/-!
# Text: comparison without regard to ASCII case

Tokens of the protocol and header names are the same when they differ at most in the case of the
letters `A` to `Z`.  No other letter has a second case here: `K` and the Kelvin sign differ.
-/

set_option autoImplicit false

namespace MediaControl.Text

/-- The characters with `A` to `Z` in lower case. -/
def lowerChars (s : List Char) : List Char := s.map Char.toLower

/-- The text with `A` to `Z` in lower case. -/
def lower (s : String) : String := String.ofList (lowerChars s.toList)

/-- The two texts differ at most in the case of ASCII letters. -/
def sameCaseless (a b : String) : Bool := lowerChars a.toList == lowerChars b.toList

theorem sameCaseless_iff {a b : String} :
    sameCaseless a b = true ↔ lowerChars a.toList = lowerChars b.toList := by
  simp [sameCaseless]

@[simp] theorem sameCaseless_refl (a : String) : sameCaseless a a = true := by
  simp [sameCaseless]

theorem sameCaseless_comm (a b : String) : sameCaseless a b = sameCaseless b a := by
  unfold sameCaseless
  exact Bool.beq_comm

theorem sameCaseless_trans {a b c : String} (hab : sameCaseless a b = true)
    (hbc : sameCaseless b c = true) : sameCaseless a c = true := by
  rw [sameCaseless_iff] at *
  exact hab.trans hbc

end MediaControl.Text
