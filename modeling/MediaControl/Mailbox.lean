/-!
# Mailboxes (SPEC_FULL §4.5)

Values and failures wait in one line for whoever takes them, so that a failure is seen at its place
between the values.
-/

set_option autoImplicit false

namespace MediaControl

/-- What waits to be taken, oldest first. -/
structure Mailbox (ε α : Type) where
  items : List (Except ε α) := []

namespace Mailbox

variable {ε α : Type}

/-- Adds an item behind all others. -/
def push (m : Mailbox ε α) (item : Except ε α) : Mailbox ε α := ⟨m.items ++ [item]⟩

/-- Adds a value behind all others. -/
def put (m : Mailbox ε α) (value : α) : Mailbox ε α := m.push (.ok value)

/-- Adds a failure behind all others. -/
def fail (m : Mailbox ε α) (failure : ε) : Mailbox ε α := m.push (.error failure)

/-- The oldest item, and the mailbox without it. -/
def take? (m : Mailbox ε α) : Option (Except ε α × Mailbox ε α) :=
  match m.items with
  | [] => none
  | item :: rest => some (item, ⟨rest⟩)

/-- How many items wait. -/
def size (m : Mailbox ε α) : Nat := m.items.length

/-- Nothing waits. -/
def isEmpty (m : Mailbox ε α) : Bool := m.items.isEmpty

/-- The value waits. -/
def contains [BEq α] (m : Mailbox ε α) (value : α) : Bool :=
  m.items.any fun
    | .ok waiting => waiting == value
    | .error _ => false

/-- The mailbox as a report shows it. -/
def report (m : Mailbox ε α) : String := s!"Exchange \x7b queued: {m.size} \x7d"

end Mailbox

end MediaControl
