import MediaControl.Number.Natural

/-!
# The length field (SPEC_FULL §4.1)

The second word of a start line counts every byte of the message, the digits of the count itself
included.  The count is the smallest number that is the sum of the other bytes and its own digits.
-/

set_option autoImplicit false

namespace MediaControl.Wire

/-- How many decimal digits the number has. -/
def digitCount (n : Nat) : Nat := (Natural.digits n).length

/-- Corrects a candidate for the length of a message with `others` bytes beside the digits: as long as
the candidate's digits make another length, that one is the next candidate. -/
def settle (others : Nat) : Nat → Nat → Nat
  | 0, candidate => candidate
  | fuel + 1, candidate =>
    if others + digitCount candidate = candidate then candidate
    else settle others fuel (others + digitCount candidate)

/-- The length of a message with `others` bytes beside the digits of the length.  The first candidate
has one digit; every correction adds a digit, so as many corrections as the sum has digits are
enough. -/
def messageLength (others : Nat) : Nat :=
  settle others (digitCount others + 2) (others + 1)

end MediaControl.Wire
