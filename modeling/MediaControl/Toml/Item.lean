import MediaControl.Table

/-!
# TOML: what a document holds

A document is a table of items by key.  An item is a value or a table, and a table remembers how it
came to be, for on that depends whether more may be written into it.
-/

set_option autoImplicit false

namespace MediaControl.Toml

/-- How a table came to be. -/
inductive TableKind where
  /-- it is the document itself, or has a header of its own -/
  | headed
  /-- the header of a table within it implies it -/
  | implied
  /-- a dotted key leads through it -/
  | dotted
  /-- it was written out between braces, and is complete -/
  | sealed
  deriving DecidableEq, Repr, Inhabited

/-- Something that stands under a key. -/
inductive Item where
  | text (s : String)
  | integer (n : Int)
  | boolean (b : Bool)
  /-- a number with a fraction or an exponent, or a word for a number; which one is not kept -/
  | decimal
  /-- a date, a time of day or both; which one is not kept -/
  | moment
  | list (items : List Item)
  | table (kind : TableKind) (entries : Table String Item)
  /-- the tables that share a header in double brackets -/
  | tables (entries : List (Table String Item))

namespace Item

/-- The item is a text. -/
def text? : Item → Option String
  | text s => some s
  | _ => none

/-- The item is a truth value. -/
def boolean? : Item → Option Bool
  | boolean b => some b
  | _ => none

/-- The item is an integer that is not negative. -/
def natural? : Item → Option Nat
  | integer (.ofNat n) => some n
  | _ => none

end Item

end MediaControl.Toml
