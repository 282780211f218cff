/-!
# TOML: readers

A reader takes something off the front of a text, or refuses.  Readers are put together by `do`;
where one of several may apply, the first that does not refuse is taken, from the same place in the
text.

Blanks, comments and line ends are read here.
-/

set_option autoImplicit false

namespace MediaControl.Toml

/-- Takes something off the front of a text, or refuses. -/
abbrev Reader := StateT (List Char) Option

namespace Reader

variable {α : Type}

/-- Runs a reader that has to read a whole text. -/
def whole? (r : Reader α) (s : String) : Option α :=
  match r s.toList with
  | some (a, []) => some a
  | _ => none

/-- The next character. -/
def next : Reader Char := fun s =>
  match s with
  | [] => none
  | c :: rest => some (c, rest)

/-- The next character, if it passes the test. -/
def satisfy (test : Char → Bool) : Reader Char := do
  let c ← next
  if test c then return c else failure

/-- The character `c`. -/
def char (c : Char) : Reader Unit := do discard (satisfy (· = c))

/-- The characters of a word, one after the other. -/
def word (w : String) : Reader Unit := w.toList.forM char

/-- The characters up to the first that fails the test. -/
def run (test : Char → Bool) : Reader (List Char) := fun s =>
  some (s.takeWhile test, s.dropWhile test)

/-- At least one character, up to the first that fails the test. -/
def run1 (test : Char → Bool) : Reader (List Char) := do
  let c ← satisfy test
  return c :: (← run test)

/-- What the reader reads, if it does not refuse. -/
def perhaps (r : Reader α) : Reader (Option α) := (some <$> r) <|> pure none

/-- What the reader reads over and over until it refuses, as often at most as there are characters in
`fuel`; `read` is what it has read before, last one first. -/
def upTo (r : Reader α) (read : List α) (fuel s : List Char) : List α × List Char :=
  match fuel with
  | [] => (read.reverse, s)
  | _ :: fuel =>
    match r s with
    | none => (read.reverse, s)
    | some (a, rest) => upTo r (a :: read) fuel rest

/-- What the reader reads over and over until it refuses. -/
def many (r : Reader α) : Reader (List α) := fun s => some (upTo r [] s s)

/-- Nothing is left to read. -/
def atEnd : Reader Unit := fun s => if s.isEmpty then some ((), s) else none

/-! ## Blanks, comments and line ends -/

/-- A space or a tab. -/
def isBlank (c : Char) : Bool := c = ' ' || c = '\t'

/-- A character that may stand in a comment: no control character but the tab. -/
def isOpen (c : Char) : Bool := c = '\t' || (' ' ≤ c && c ≠ '\x7f')

/-- Blanks. -/
def blanks : Reader Unit := do discard (run isBlank)

/-- What stands between blanks. -/
def spaced (r : Reader α) : Reader α := do
  blanks
  let a ← r
  blanks
  return a

/-- The end of a line, which a carriage return may precede. -/
def newline : Reader Unit := char '\n' <|> (do char '\r'; char '\n')

/-- A comment, up to the end of its line. -/
def comment : Reader Unit := do
  char '#'
  discard (run isOpen)

/-- The rest of a line that says nothing. -/
def restOfLine : Reader Unit := do
  blanks
  discard (perhaps comment)
  newline <|> atEnd

/-- Blanks, line ends and lines that hold a comment. -/
def gap : Reader Unit := do
  discard (many ((do discard (run1 isBlank)) <|> newline <|> (do comment; newline)))

end Reader

end MediaControl.Toml
