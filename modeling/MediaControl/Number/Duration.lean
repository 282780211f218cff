import MediaControl.Number.Natural

/-!
# Numbers: spans of time

Spans of time are counted in milliseconds.  They are written in seconds, with as many decimals as
are needed, where a second has passed, and in milliseconds below; no time at all is written in
nanoseconds.
-/

set_option autoImplicit false

namespace MediaControl.Duration

/-- The digits behind the point, without zeros at their end, and the point if there are any. -/
def fraction (milliseconds : Nat) : String :=
  let digits := ((Natural.padded 3 milliseconds).toList.reverse.dropWhile (· = '0')).reverse
  if digits.isEmpty then "" else String.ofList ('.' :: digits)

/-- The text of a span of time. -/
def text (milliseconds : Nat) : String :=
  if 1000 ≤ milliseconds then
    Natural.text (milliseconds / 1000) ++ fraction (milliseconds % 1000) ++ "s"
  else if milliseconds = 0 then "0ns"
  else Natural.text milliseconds ++ "ms"

end MediaControl.Duration
