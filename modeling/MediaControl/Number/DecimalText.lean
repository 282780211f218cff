import MediaControl.Number.Shortest

/-!
# Numbers: how a double is written

A double is written with the digits of its shortest decimal.  A `DecimalStyle` says the rest: whether
a whole number keeps a fraction, and beyond which exponents a power of ten is written.
-/

set_option autoImplicit false

namespace MediaControl

/-- How the digits of a decimal are laid out. -/
structure DecimalStyle where
  /-- a whole number ends in `.0` -/
  keepsFraction : Bool
  /-- exponents of the leading digit, first and last, that are written without a power of ten;
  without bounds every one is -/
  positional : Option (Int × Int)
  deriving DecidableEq, Repr, Inhabited

namespace DecimalStyle

/-- The style of a value on the wire and in reports: a whole number ends in `.0`, and a power of ten
is written below `0.0001` and from `10 ^ 16` on. -/
def canonical : DecimalStyle := ⟨true, some (-4, 15)⟩

/-- The style of a number in a sentence: no power of ten, no superfluous fraction. -/
def plain : DecimalStyle := ⟨false, none⟩

end DecimalStyle

namespace ShortDecimal

/-- The digits without the zeros at their end, last digit first, and the exponent that they leave. -/
def dropZeros : List Char → Int → List Char × Int
  | '0' :: rest, exponent => dropZeros rest (exponent + 1)
  | digits, exponent => (digits, exponent)

/-- The digits laid out in the given style. -/
def layout (style : DecimalStyle) (x : ShortDecimal) : List Char :=
  let (reversed, exponent) := dropZeros (Nat.toDigits 10 x.digits).reverse x.exponent
  let digits := reversed.reverse
  let leading : Int := exponent + digits.length - 1
  let isPositional := match style.positional with
    | none => true
    | some (first, last) => first ≤ leading && leading ≤ last
  if isPositional then
    if leading < 0 then
      ['0', '.'] ++ List.replicate (leading.natAbs - 1) '0' ++ digits
    else if 0 ≤ exponent then
      digits ++ List.replicate exponent.natAbs '0' ++ (if style.keepsFraction then ['.', '0'] else [])
    else
      digits.take (leading.natAbs + 1) ++ ['.'] ++ digits.drop (leading.natAbs + 1)
  else
    let fraction := digits.drop 1
    digits.take 1 ++ (if fraction.isEmpty then [] else '.' :: fraction) ++ ['e']
      ++ (toString leading).toList

end ShortDecimal

/-- The text of a double in the given style. -/
def DecimalStyle.text (style : DecimalStyle) (x : Float) : String :=
  let signed (negative : Bool) (body : List Char) : String :=
    String.ofList (if negative then '-' :: body else body)
  match DoubleClass.ofFloat x with
  | .notANumber => "NaN"
  | .infinity negative => signed negative "inf".toList
  | .zero negative => signed negative (if style.keepsFraction then "0.0".toList else ['0'])
  | .finite negative magnitude => signed negative (magnitude.shortest.layout style)

end MediaControl
