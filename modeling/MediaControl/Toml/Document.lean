import MediaControl.Toml.Value

/-!
# TOML: reading documents

A document is assignments line by line, and headers that say to which table those behind them
belong.
-/

set_option autoImplicit false

namespace MediaControl.Toml

open Reader

/-- A line of a document, or several where a value takes more. -/
inductive Line where
  /-- blanks and a comment, if anything -/
  | idle
  | assigns (a : Entries.Assignment)
  /-- the header of a table -/
  | opens (path : List String) (key : String)
  /-- the header of one table of several -/
  | adds (path : List String) (key : String)

namespace Line

/-- A header between the given brackets. -/
def header (opening closing : String) : Reader (List String × String) := do
  word opening
  let key ← key
  word closing
  return key

/-- Reads a line. -/
def read : Reader Line := do
  blanks
  let line ← (do let (path, key) ← header "[[" "]]"; return .adds path key)
    <|> (do let (path, key) ← header "[" "]"; return .opens path key)
    <|> assigns <$> assignment value
    <|> pure .idle
  restOfLine
  return line

end Line

/-- The assignments at the start of the lines, up to the first header. -/
def leading : List Line → List Entries.Assignment
  | .assigns a :: rest => a :: leading rest
  | .idle :: rest => leading rest
  | _ => []

/-- Adds the tables of headers, each with the assignments behind it. -/
def addHeaded (entries : Entries) : List Line → Option Entries
  | [] => some entries
  | .opens path key :: rest => do
    addHeaded (← entries.within path (·.addTable (leading rest) key)) rest
  | .adds path key :: rest => do
    addHeaded (← entries.within path (·.addToTables (leading rest) key)) rest
  | _ :: rest => addHeaded entries rest

/-- The table that lines make. -/
def ofLines (lines : List Line) : Option Entries := do
  addHeaded (← Entries.assignAll {} (leading lines)) lines

/-- Reads a line unless nothing is left. -/
def anotherLine : Reader Line := do
  if (← get).isEmpty then failure else Line.read

/-- Reads the lines of a document, before which a byte order mark may stand. -/
def lines : Reader (List Line) := do
  discard (perhaps (char '\ufeff'))
  many anotherLine

/-- Reads a document. -/
def read? (s : String) : Option Entries := (whole? lines s).bind ofLines

end MediaControl.Toml
