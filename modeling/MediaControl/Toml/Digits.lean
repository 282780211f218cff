import MediaControl.Toml.Reader

/-!
# TOML: digits

Numbers and escapes are written with digits in bases up to sixteen.
-/

set_option autoImplicit false

namespace MediaControl.Toml.Digits

open Reader

/-- A digit in base sixteen. -/
def isHex (c : Char) : Bool := c.isDigit || ('a' ≤ c.toLower && c.toLower ≤ 'f')

/-- A digit in base eight. -/
def isOctal (c : Char) : Bool := '0' ≤ c && c ≤ '7'

/-- A digit in base two. -/
def isBinary (c : Char) : Bool := c = '0' || c = '1'

/-- The value of a digit in base sixteen. -/
def hexValue (c : Char) : Nat :=
  if c.isDigit then c.toNat - '0'.toNat else c.toLower.toNat - 'a'.toNat + 10

/-- The number that digits write in a base. -/
def valueIn (base : Nat) (digits : List Char) : Nat :=
  digits.foldl (fun n c => n * base + hexValue c) 0

/-- The number that digits write in a base, if it is no larger than the limit. -/
def valueUpTo? (limit base : Nat) (digits : List Char) : Option Nat :=
  digits.foldlM (fun n c => (some (n * base + hexValue c)).filter (· ≤ limit)) 0

/-- Exactly `width` digits. -/
def fixed (width : Nat) (test : Char → Bool) : Reader (List Char) :=
  (List.replicate width ()).mapM fun _ => satisfy test

/-- Digits, set apart by single underscores or not. -/
def spelled (test : Char → Bool) : Reader (List Char) := do
  let first ← satisfy test
  let rest ← many (satisfy test <|> (do char '_'; satisfy test))
  return first :: rest

end MediaControl.Toml.Digits
