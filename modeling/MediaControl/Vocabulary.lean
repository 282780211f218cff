import MediaControl.Text.Caseless
import MediaControl.Text.Quoted

/-!
# Closed vocabularies (SPEC_FULL §6)

Methods, events, resource types and request states are closed vocabularies.  A term has a *wire*
form, which is compared without regard to ASCII case, and a *symbol*, which is compared exactly.  A
text that names no term is refused with the vocabulary that was asked and the text as given.
-/

set_option autoImplicit false

namespace MediaControl

/-- A text that names no term of a vocabulary. -/
structure UnknownToken where
  /-- the vocabulary that was asked -/
  vocabulary : String
  token : String
  deriving DecidableEq, Repr, Inhabited

/-- The refusal in words. -/
def UnknownToken.message (unknown : UnknownToken) : String :=
  s!"unknown {unknown.vocabulary}: {Text.quoted unknown.token}"

/-- A closed vocabulary of the protocol. -/
class Vocabulary (α : Type) where
  /-- what a wire form names -/
  wireNoun : String
  /-- what a symbol names -/
  symbolNoun : String
  /-- every term, in table order -/
  all : List α
  /-- the form of a term on the wire -/
  wire : α → String
  /-- the symbol of a term -/
  symbol : α → String

namespace Vocabulary

variable {α : Type} [Vocabulary α]

/-- The term with the given wire form, in any case. -/
def ofWire (token : String) : Except UnknownToken α :=
  match (all : List α).find? fun term => token ≠ "" && Text.sameCaseless (wire term) token with
  | some term => .ok term
  | none => .error ⟨wireNoun α, token⟩

/-- The term with the given symbol. -/
def ofSymbol (token : String) : Except UnknownToken α :=
  match (all : List α).find? fun term => symbol term == token with
  | some term => .ok term
  | none => .error ⟨symbolNoun α, token⟩

end Vocabulary

end MediaControl
