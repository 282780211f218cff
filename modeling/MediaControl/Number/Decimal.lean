import MediaControl.Text.Caseless

/-!
# Numbers: reading a decimal

A decimal is an optional sign, digits with an optional point among or beside them, and an optional
power of ten; infinity and "not a number" are written as words.  A `Numeral` is what such a text
says exactly; `Numeral.toFloat` is the double nearest to it.

`combine_eq_horner` says that the quick way to the number that digits write leads there.
-/

set_option autoImplicit false

namespace MediaControl

/-- What the text of a decimal says, before any rounding. -/
inductive Numeral where
  /-- `± coefficient · 10 ^ exponent` -/
  | finite (negative : Bool) (coefficient : Nat) (exponent : Int)
  | infinity (negative : Bool)
  | notANumber
  deriving DecidableEq, Repr, Inhabited

namespace Numeral

/-- The number that digits of a base write, the last one first. -/
def horner (base : Nat) : List Nat → Nat
  | [] => 0
  | a :: rest => horner base rest * base + a

/-- Digits of a base, the last one first, two by two as digits of its square, behind those put together
before, which are `done`, the latest first. -/
def pairsFrom (base : Nat) (done : List Nat) : List Nat → List Nat
  | [] => done.reverse
  | [a] => (a :: done).reverse
  | a :: b :: rest => pairsFrom base ((b * base + a) :: done) rest

/-- Digits of a base, the last one first, two by two as digits of its square. -/
def pairs (base : Nat) (digits : List Nat) : List Nat := pairsFrom base [] digits

theorem pairsFrom_eq_append (base : Nat) : ∀ done digits : List Nat,
    pairsFrom base done digits = done.reverse ++ pairs base digits
  | done, [] => by simp [pairs, pairsFrom]
  | done, [a] => by simp [pairs, pairsFrom]
  | done, a :: b :: rest => by
    rw [pairs, pairsFrom, pairsFrom, pairsFrom_eq_append base _ rest,
      pairsFrom_eq_append base [b * base + a] rest]
    simp

theorem pairs_cons_cons (base a b : Nat) (rest : List Nat) :
    pairs base (a :: b :: rest) = (b * base + a) :: pairs base rest := by
  rw [pairs, pairsFrom, pairsFrom_eq_append]
  simp

theorem length_pairs_le (base : Nat) : ∀ digits, (pairs base digits).length ≤ digits.length
  | [] => by simp [pairs, pairsFrom]
  | [a] => by simp [pairs, pairsFrom]
  | a :: b :: rest => by
    have := length_pairs_le base rest
    rw [pairs_cons_cons]
    simp only [List.length_cons]
    omega

theorem horner_pairs (base : Nat) : ∀ digits,
    horner (base * base) (pairs base digits) = horner base digits
  | [] => by simp [pairs, pairsFrom, horner]
  | [a] => by simp [pairs, pairsFrom, horner]
  | a :: b :: rest => by
    rw [pairs_cons_cons, horner, horner_pairs base rest, horner, horner, Nat.add_mul, Nat.mul_assoc,
      Nat.add_assoc]

/-- The number that digits of a base write, the last one first.  They are put together two by two, so
that a long row takes no more time than it must. -/
def combine (base : Nat) (digits : List Nat) : Nat :=
  match digits with
  | [] => 0
  | [a] => a
  | a :: b :: rest => combine (base * base) (pairs base (a :: b :: rest))
  termination_by digits.length
  decreasing_by
    have := length_pairs_le base rest
    rw [pairs_cons_cons]
    simp only [List.length_cons]
    omega

/-- Putting digits together gives the number that they write. -/
theorem combine_eq_horner (base : Nat) (digits : List Nat) :
    combine base digits = horner base digits := by
  fun_induction combine base digits with
  | case1 => rfl
  | case2 => simp [horner]
  | case3 base a b rest ih => rw [ih, horner_pairs]

/-- The number that a row of ASCII digits writes. -/
def valueOf (digits : List Char) : Nat :=
  combine 10 (digits.reverse.map fun c => c.toNat - '0'.toNat)

/-- A leading sign, and the rest. -/
def splitSign : List Char → Bool × List Char
  | '-' :: rest => (true, rest)
  | '+' :: rest => (false, rest)
  | s => (false, s)

/-- Reads the power of ten: nothing, or `e` with a signed row of digits. -/
def readPower : List Char → Option Int
  | [] => some 0
  | c :: rest =>
    if c = 'e' ∨ c = 'E' then
      let (negative, digits) := splitSign rest
      if !digits.isEmpty && digits.all Char.isDigit then
        some (if negative then -(valueOf digits : Int) else valueOf digits)
      else none
    else none

/-- Reads what stands behind the sign, words apart. -/
def readUnsigned (negative : Bool) (s : List Char) : Option Numeral :=
  let whole := s.takeWhile Char.isDigit
  let rest := s.dropWhile Char.isDigit
  let (fraction, rest) :=
    match rest with
    | '.' :: rest => (rest.takeWhile Char.isDigit, rest.dropWhile Char.isDigit)
    | rest => ([], rest)
  if whole.isEmpty && fraction.isEmpty then none
  else (readPower rest).map fun power =>
    finite negative (valueOf (whole ++ fraction)) (power - fraction.length)

/-- Reads a decimal. -/
def read? (s : String) : Option Numeral :=
  let (negative, rest) := splitSign s.toList
  let word := Text.lowerChars rest
  if word = "inf".toList ∨ word = "infinity".toList then some (infinity negative)
  else if word = "nan".toList then some notANumber
  else readUnsigned negative rest

/-- The double nearest to `coefficient · 10 ^ exponent`.  Beyond `10 ^ 310` every such number
rounds to infinity and below `10 ^ -330` to zero, which spares the powers that would be needed; the
decimal logarithm of the coefficient is reckoned from its binary one. -/
def nearest (coefficient : Nat) (exponent : Int) : Float :=
  if coefficient = 0 then 0.0
  else
    let magnitude : Int := coefficient.log2 * 30103 / 100000 + exponent
    if magnitude > 310 then 1.0 / 0.0
    else if magnitude < -330 then 0.0
    else Float.ofScientific coefficient (exponent < 0) exponent.natAbs

/-- The double nearest to the numeral. -/
def toFloat : Numeral → Float
  | finite negative coefficient exponent =>
    if negative then -nearest coefficient exponent else nearest coefficient exponent
  | infinity negative => if negative then -(1.0 / 0.0) else 1.0 / 0.0
  | notANumber => 0.0 / 0.0

end Numeral

end MediaControl
