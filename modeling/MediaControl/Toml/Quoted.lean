import MediaControl.Toml.Digits

/-!
# TOML: reading strings

A string stands between quotes, single or triple, of one of two sorts.  Between double quotes a
backslash escapes; between apostrophes every character stands for itself.  Triple quotes may hold
line ends, and quotes of their own sort as long as no three stand together.
-/

set_option autoImplicit false

namespace MediaControl.Toml.Quoted

open Reader

/-- The character that `width` hexadecimal digits number. -/
def scalar (width : Nat) : Reader Char := do
  let n := Digits.valueIn 16 (← Digits.fixed width Digits.isHex)
  if n.isValidChar then return .ofNat n else failure

/-- A backslash and what it stands for together with what follows. -/
def escape : Reader Char := do
  char '\\'
  match ← next with
  | 'b' => return '\x08'
  | 't' => return '\t'
  | 'n' => return '\n'
  | 'f' => return '\x0c'
  | 'r' => return '\r'
  | '"' => return '"'
  | '\\' => return '\\'
  | 'u' => scalar 4
  | 'U' => scalar 8
  | _ => failure

/-- A character that stands for itself between double quotes. -/
def isPlain (c : Char) : Bool := isOpen c && c ≠ '"' && c ≠ '\\'

/-- A character that stands for itself between apostrophes. -/
def isLiteral (c : Char) : Bool := isOpen c && c ≠ '\''

/-- A string between double quotes. -/
def basic : Reader String := do
  char '"'
  let parts ← many (run1 isPlain <|> (do return [← escape]))
  char '"'
  return .ofList parts.flatten

/-- A string between apostrophes. -/
def literal : Reader String := do
  char '\''
  let content ← run isLiteral
  char '\''
  return .ofList content

/-- A line end within a string. -/
def lineEnd : Reader (List Char) := do
  newline
  return ['\n']

/-- A backslash at the end of a line, which takes away all blanks and line ends that follow. -/
def joint : Reader (List Char) := do
  char '\\'
  blanks
  newline
  discard (many ((do discard (run1 isBlank)) <|> newline))
  return []

/-- What stands between triple quotes, and the quotes at its end.  One or two quotes before those
belong to the string. -/
def tripled (quote : Char) (part : Reader (List Char)) : Nat → Reader (List Char)
  | 0 => failure
  | fuel + 1 => do
    let content := (← many part).flatten
    let quotes ← run1 (· = quote)
    if quotes.length < 3 then return content ++ quotes ++ (← tripled quote part fuel)
    else if quotes.length ≤ 5 then return content ++ quotes.drop 3
    else failure

/-- A string between triple quotes.  A line end right behind the first of them does not count. -/
def multiline (quote : Char) (part : Reader (List Char)) : Reader String := do
  word (.ofList [quote, quote, quote])
  discard (perhaps newline)
  let fuel := (← get).length
  return .ofList (← tripled quote part fuel)

/-- A string. -/
def string : Reader String :=
  multiline '"' (run1 isPlain <|> joint <|> (do return [← escape]) <|> lineEnd)
    <|> basic
    <|> multiline '\'' (run1 isLiteral <|> lineEnd)
    <|> literal

end MediaControl.Toml.Quoted
