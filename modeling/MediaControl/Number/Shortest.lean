/-!
# Numbers: the shortest decimal of a double

Between two neighbouring doubles lies one interval of reals for each, namely those that round to
it.  The *shortest decimal* of a finite double is the decimal with the fewest digits inside its
interval and, of those, the one nearest to the double; of two that are equally near, the larger.

A positive double is `significand · 2 ^ power`.  All comparisons are made in whole numbers: in
quarters of `2 ^ power` the double is `4 · significand`, its interval ends two quarters above it and
two quarters below it -- one below it where the next smaller double is only half as far away -- and
the ends belong to the interval exactly when the significand is even.
-/

set_option autoImplicit false

namespace MediaControl

/-- A positive decimal `digits · 10 ^ exponent`. -/
structure ShortDecimal where
  digits : Nat
  exponent : Int
  deriving DecidableEq, Repr, Inhabited

/-- A positive finite double: `significand · 2 ^ power`. -/
structure Dyadic where
  significand : Nat
  power : Int
  /-- the next smaller double is half as far away as the next larger one -/
  atBinade : Bool
  deriving DecidableEq, Repr, Inhabited

/-- What the bits of a double say. -/
inductive DoubleClass where
  | notANumber
  | infinity (negative : Bool)
  | zero (negative : Bool)
  | finite (negative : Bool) (magnitude : Dyadic)
  deriving DecidableEq, Repr, Inhabited

namespace DoubleClass

/-- Two to the fifty-second: a double's fraction lies below it. -/
def fractionSpan : Nat := 4503599627370496

/-- Reads a sign, eleven bits of exponent and fifty-two of fraction. -/
def ofBits (bits : Nat) : DoubleClass :=
  let negative := decide (2048 * fractionSpan ≤ bits)
  let exponent := bits / fractionSpan % 2048
  let fraction := bits % fractionSpan
  if exponent = 2047 then
    if fraction = 0 then infinity negative else notANumber
  else if exponent = 0 then
    if fraction = 0 then zero negative else finite negative ⟨fraction, -1074, false⟩
  else finite negative ⟨fractionSpan + fraction, (exponent : Int) - 1075, fraction = 0 && 1 < exponent⟩

/-- What a double is. -/
def ofFloat (x : Float) : DoubleClass := ofBits x.toBits.toNat

end DoubleClass

namespace Dyadic

/-- `a / b` as a fraction of naturals for `a = base ^ power`. -/
def powParts (base : Nat) (power : Int) : Nat × Nat :=
  if power < 0 then (1, Nat.pow base power.natAbs) else (Nat.pow base power.natAbs, 1)

/-- The exponent of the leading decimal digit. -/
def leadingExponent (x : Dyadic) : Int :=
  let (up, down) := powParts 2 x.power
  ((Nat.toDigits 10 (x.significand * up * Nat.pow 10 400 / down)).length : Int) - 401

/-- Factors `(a, b)` such that `d · 10 ^ exponent` and `n` quarters of `2 ^ power` compare as
`d · a` and `n · b`. -/
def scale (x : Dyadic) (exponent : Int) : Nat × Nat :=
  let (tenUp, tenDown) := powParts 10 exponent
  let (twoUp, twoDown) := powParts 2 (x.power - 2)
  (tenUp * twoDown, tenDown * twoUp)

/-- The decimal `d · 10 ^ exponent` rounds to the double. -/
def holds (x : Dyadic) (exponent : Int) (d : Nat) : Bool :=
  let (a, b) := x.scale exponent
  let low := (4 * x.significand - (if x.atBinade then 1 else 2)) * b
  let high := (4 * x.significand + 2) * b
  if x.significand % 2 = 0 then low ≤ d * a && d * a ≤ high else low < d * a && d * a < high

/-- The nearest multiple of `10 ^ exponent` that rounds to the double: one of the double's two
neighbours on that grid, if any is; a tie goes to the larger. -/
def onGrid? (x : Dyadic) (exponent : Int) : Option ShortDecimal :=
  let (a, b) := x.scale exponent
  let value := 4 * x.significand * b
  let below := value / a
  let above := below + 1
  match x.holds exponent below, x.holds exponent above with
  | true, true =>
    if value - below * a < above * a - value then some ⟨below, exponent⟩
    else some ⟨above, exponent⟩
  | true, false => some ⟨below, exponent⟩
  | false, true => some ⟨above, exponent⟩
  | false, false => none

/-- The first grid that holds a decimal of the double, from coarse to fine; `grids` more are
tried. -/
def shortestFrom (x : Dyadic) (exponent : Int) : Nat → ShortDecimal
  | 0 => ⟨x.significand, exponent⟩
  | grids + 1 => (x.onGrid? exponent).getD (x.shortestFrom (exponent - 1) grids)

/-- The shortest decimal of the double.  Seventeen digits always suffice. -/
def shortest (x : Dyadic) : ShortDecimal := x.shortestFrom x.leadingExponent 17

end Dyadic

end MediaControl
