import MediaControl.Number.Decimal
import MediaControl.Toml.Digits
import MediaControl.Toml.Item

/-!
# TOML: reading numbers, dates and times

Digits may be set apart by single underscores.  Integers are signed and have 64 bits; a decimal that
is too large to be told from infinity is refused, unless it is negative.
-/

set_option autoImplicit false

namespace MediaControl.Toml.Scalar

open Reader

/-! ## Numbers -/

/-- A sign, if there is one. -/
def sign : Reader (List Char) := do
  return (← perhaps (satisfy fun c => c = '+' || c = '-')).toList

/-- A whole number with its sign; no zero stands before another digit. -/
def whole : Reader (List Char) := do
  let sign ← sign
  let zero ← perhaps (char '0')
  match zero with
  | some _ => return sign ++ ['0']
  | none => return sign ++ (← Digits.spelled Char.isDigit)

/-- A power of ten. -/
def power : Reader (List Char) := do
  let mark ← satisfy fun c => c = 'e' || c = 'E'
  let sign ← sign
  return mark :: sign ++ (← Digits.spelled Char.isDigit)

/-- A decimal. -/
def decimal : Reader Item := do
  let whole ← whole
  let rest ← power <|> (do
    char '.'
    let fraction ← Digits.spelled Char.isDigit
    return '.' :: fraction ++ ((← perhaps power).getD []))
  match Numeral.read? (.ofList (whole ++ rest)) with
  | some n => if n.toFloat == 1.0 / 0.0 then failure else return .decimal
  | none => failure

/-- A word for a number. -/
def numberWord : Reader Item := do
  discard sign
  word "inf" <|> word "nan"
  return .decimal

/-- The largest integer. -/
def maxInteger : Nat := 9223372036854775807

/-- An integer in another base than ten, behind the mark of the base. -/
def based (mark : String) (base : Nat) (test : Char → Bool) : Reader Item := do
  word mark
  let digits ← Digits.spelled test
  return .integer (← Digits.valueUpTo? maxInteger base digits)

/-- An integer in base ten. -/
def integer : Reader Item := do
  match ← whole with
  | '-' :: digits => return .integer (-(← Digits.valueUpTo? (maxInteger + 1) 10 digits : Nat))
  | '+' :: digits | digits => return .integer (← Digits.valueUpTo? maxInteger 10 digits)

/-- An integer. -/
def anyInteger : Reader Item :=
  based "0x" 16 Digits.isHex
    <|> based "0o" 8 Digits.isOctal
    <|> based "0b" 2 Digits.isBinary
    <|> integer

/-! ## Dates and times -/

/-- A number of exactly `width` digits that is between the bounds. -/
def numberOf (width lower upper : Nat) : Reader Nat := do
  let n := Digits.valueIn 10 (← Digits.fixed width Char.isDigit)
  if lower ≤ n && n ≤ upper then return n else failure

/-- How many days a month has. -/
def daysIn (year month : Nat) : Nat :=
  if month = 2 then
    if year % 4 = 0 && (year % 100 ≠ 0 || year % 400 = 0) then 29 else 28
  else if [4, 6, 9, 11].contains month then 30 else 31

/-- A date. -/
def date : Reader Unit := do
  let year ← numberOf 4 0 9999
  char '-'
  let month ← numberOf 2 1 12
  char '-'
  discard (numberOf 2 1 (daysIn year month))

/-- A time of day. -/
def time : Reader Unit := do
  discard (numberOf 2 0 23)
  char ':'
  discard (numberOf 2 0 59)
  char ':'
  discard (numberOf 2 0 60)
  discard (perhaps (do char '.'; discard (run1 Char.isDigit)))

/-- How far the local time is off. -/
def offset : Reader Unit :=
  (do discard (satisfy fun c => c = 'Z' || c = 'z')) <|> (do
    discard (satisfy fun c => c = '+' || c = '-')
    discard (numberOf 2 0 23)
    char ':'
    discard (numberOf 2 0 59))

/-- A date, a time of day or both. -/
def moment : Reader Item := do
  (do
    date
    discard (perhaps (do
      discard (satisfy fun c => c = 'T' || c = 't' || c = ' ')
      time
      discard (perhaps offset)))) <|> time
  return .moment

/-- A truth value. -/
def boolean : Reader Item :=
  (do word "true"; return .boolean true) <|> (do word "false"; return .boolean false)

/-- A value that is neither a string nor made of other values. -/
def scalar : Reader Item := boolean <|> moment <|> decimal <|> numberWord <|> anyInteger

end MediaControl.Toml.Scalar
