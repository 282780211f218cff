/-!
# Numbers: decimal naturals

Request ids, lengths, ports and codes are decimal naturals of a bounded width.  They are read from
left to right, so the first trouble met is the one reported: a digit that takes the number past its
bound stands before a bad character behind it.
-/

set_option autoImplicit false

namespace MediaControl.Natural

/-- The largest number of 16 bits. -/
def max16 : Nat := 65535

/-- The largest number of 64 bits. -/
def max64 : Nat := 18446744073709551615

/-- Why a text is no natural number. -/
inductive Fault where
  /-- there is nothing to read -/
  | empty
  /-- a character is no digit, or a sign stands alone -/
  | invalidDigit
  /-- the number passes its bound -/
  | tooLarge
  deriving DecidableEq, Repr, Inhabited

/-- The fault in words. -/
def Fault.message : Fault → String
  | .empty => "cannot parse integer from empty string"
  | .invalidDigit => "invalid digit found in string"
  | .tooLarge => "number too large to fit in target type"

/-- The value of an ASCII digit. -/
def digitValue (c : Char) : Nat := c.toNat - '0'.toNat

/-- Reads digits behind a number already read. -/
def readFrom (bound : Nat) (value : Nat) : List Char → Except Fault Nat
  | [] => .ok value
  | c :: rest =>
    if c.isDigit then
      if value * 10 + digitValue c ≤ bound then readFrom bound (value * 10 + digitValue c) rest
      else .error .tooLarge
    else .error .invalidDigit

/-- Reads a number up to `bound`, with an optional plus sign. -/
def readChars (bound : Nat) : List Char → Except Fault Nat
  | [] => .error .empty
  | ['+'] => .error .invalidDigit
  | '+' :: rest => readFrom bound 0 rest
  | s => readFrom bound 0 s

/-- Reads a number up to `bound`, with an optional plus sign. -/
def read (bound : Nat) (s : String) : Except Fault Nat := readChars bound s.toList

/-- The decimal digits of a number, most significant first. -/
def digits (n : Nat) : List Char := Nat.toDigits 10 n

/-- The decimal text of a number. -/
def text (n : Nat) : String := String.ofList (digits n)

/-- The decimal text of a number with zeros before it up to `width` digits. -/
def padded (width n : Nat) : String :=
  String.ofList (List.replicate (width - (digits n).length) '0' ++ digits n)

theorem readFrom_append (bound value : Nat) (s t : List Char) :
    readFrom bound value (s ++ t) = (readFrom bound value s).bind fun v => readFrom bound v t := by
  induction s generalizing value with
  | nil => rfl
  | cons c s ih =>
    simp only [List.cons_append, readFrom]
    split
    · split
      · exact ih _
      · rfl
    · rfl

end MediaControl.Natural
