import MediaControl.Toml.Nesting
import MediaControl.Toml.Quoted
import MediaControl.Toml.Scalar

/-!
# TOML: reading keys and values

A key is a word or a string, and may be dotted.  A value may be made of others, and values may be
nested so far and no further.
-/

set_option autoImplicit false

namespace MediaControl.Toml

open Reader

/-- How many keys a dotted key has at most, and how deep values are nested at most. -/
def maxDepth : Nat := 79

/-- A character of a key without quotes. -/
def isKeyChar (c : Char) : Bool := c.isAlphanum || c = '_' || c = '-'

/-- A key that is not dotted. -/
def simpleKey : Reader String :=
  Quoted.basic <|> Quoted.literal <|> (do return .ofList (← run1 isKeyChar))

/-- A key: the last of its parts, and those before. -/
def key : Reader (List String × String) := do
  let first ← spaced simpleKey
  let rest ← many (do char '.'; spaced simpleKey)
  if maxDepth < rest.length + 1 then failure
  match rest.getLast? with
  | none => return ([], first)
  | some last => return (first :: rest.dropLast, last)

/-- A key, an equals sign and a value. -/
def assignment (value : Reader Item) : Reader Entries.Assignment := do
  let (path, key) ← key
  char '='
  blanks
  return { path, key, item := ← value }

/-- Things set apart by commas, if there are any. -/
def separated {α : Type} (r : Reader α) : Reader (List α) := do
  match ← perhaps r with
  | none => return []
  | some first => return first :: (← many (do char ','; r))

/-- Values between brackets, over as many lines as it takes.  The last may have a comma too. -/
def list (value : Reader Item) : Reader Item := do
  char '['
  let items ← separated (do gap; let item ← value; gap; return item)
  if !items.isEmpty then discard (perhaps (char ','))
  gap
  char ']'
  return .list items

/-- Assignments between braces, on one line. -/
def inlineTable (value : Reader Item) : Reader Item := do
  char '{'
  let assignments ← separated (do let a ← assignment value; blanks; return a)
  blanks
  char '}'
  match Entries.assignAll {} assignments with
  | some entries => return .table .sealed entries
  | none => failure

/-- A value in which others are nested up to the given depth. -/
def valueTo : Nat → Reader Item
  | 0 => Item.text <$> Quoted.string <|> Scalar.scalar
  | depth + 1 =>
    Item.text <$> Quoted.string <|> Scalar.scalar <|> list (valueTo depth)
      <|> inlineTable (valueTo depth)

/-- A value. -/
def value : Reader Item := valueTo maxDepth

end MediaControl.Toml
