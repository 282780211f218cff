/-!
# TOML: writing strings

A string is written in the first of four forms that shows it without an escape: between double
quotes, between apostrophes, between three double quotes, between three apostrophes.  If there is
none, it is written between double quotes with escapes, three of them if it has more than one line.
A string of more than one line starts on a line of its own.
-/

set_option autoImplicit false

namespace MediaControl.Toml

/-- What decides about the form in which a string is written. -/
structure Traits where
  /-- a control character other than a tab or a line feed -/
  hasControl : Bool
  hasBackslash : Bool
  hasLineFeed : Bool
  /-- how many double quotes stand together at most -/
  quotes : Nat
  /-- how many apostrophes stand together at most -/
  apostrophes : Nat

/-- The length of the longest row of a character, given the length of the row that has just been
passed. -/
def longestRow (c : Char) (current : Nat) : List Char → Nat
  | [] => current
  | d :: rest =>
    if d = c then longestRow c (current + 1) rest else max current (longestRow c 0 rest)

/-- A control character that is neither a tab nor a line feed. -/
def isControl (c : Char) : Bool := c ≠ '\t' && c ≠ '\n' && (c < ' ' || c = '\x7f')

/-- The traits of a string. -/
def Traits.of (s : List Char) : Traits where
  hasControl := s.any isControl
  hasBackslash := s.contains '\\'
  hasLineFeed := s.contains '\n'
  quotes := longestRow '"' 0 s
  apostrophes := longestRow '\'' 0 s

/-- The number of a control character, as an escape writes it. -/
def numberEscape (c : Char) : List Char :=
  '\\' :: 'u' :: '0' :: '0' :: Nat.digitChar (c.toNat / 16) ::
    [(Nat.digitChar (c.toNat % 16)).toUpper]

/-- The characters of a string between double quotes.  `run` is how many double quotes have just been
written as they are, `most` how many may be; a line feed is kept as it is if `keepsLines` holds. -/
def escaped (most : Nat) (keepsLines : Bool) (run : Nat) : List Char → List Char
  | [] => []
  | c :: rest =>
    let go (written : List Char) : List Char := written ++ escaped most keepsLines 0 rest
    if c = '"' then
      if run < most then '"' :: escaped most keepsLines (run + 1) rest else go ['\\', '"']
    else if c = '\x08' then go ['\\', 'b']
    else if c = '\t' then go ['\\', 't']
    else if c = '\n' then go (if keepsLines then ['\n'] else ['\\', 'n'])
    else if c = '\x0c' then go ['\\', 'f']
    else if c = '\r' then go ['\\', 'r']
    else if c = '\\' then go ['\\', '\\']
    else if isControl c then go (numberEscape c)
    else go [c]

/-- A string as a document writes it. -/
def literalChars (s : List Char) : List Char :=
  let t := Traits.of s
  let between (mark content : List Char) : List Char := mark ++ content ++ mark
  let lines (mark content : List Char) : List Char :=
    mark ++ (if t.hasLineFeed then ['\n'] else []) ++ content ++ mark
  let triple := ['"', '"', '"']
  if !t.hasControl && !t.hasBackslash && t.quotes = 0 && !t.hasLineFeed then
    between ['"'] (escaped 0 false 0 s)
  else if !t.hasControl && t.apostrophes = 0 && !t.hasLineFeed then between ['\''] s
  else if !t.hasControl && !t.hasBackslash && t.quotes ≤ 2 then lines triple (escaped 2 true 0 s)
  else if !t.hasControl && t.apostrophes ≤ 2 then lines ['\'', '\'', '\''] s
  else if t.hasLineFeed then lines triple (escaped 2 true 0 s)
  else between ['"'] (escaped 0 false 0 s)

/-- A string as a document writes it. -/
def literal (s : String) : String := .ofList (literalChars s.toList)

end MediaControl.Toml
