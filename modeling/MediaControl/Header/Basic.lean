import MediaControl.Header.Catalogue

/-!
# Headers (SPEC_FULL §3)

One line `name:raw` of a message.  A header that came as text stands for what the catalogue reads
from the text; one that was made from a value keeps that value and has its canonical text, even where
the catalogue would read the text otherwise.
-/

set_option autoImplicit false

namespace MediaControl

/-- One line of a message's head. -/
structure Header where
  name : String
  raw : String
  /-- the value that the header was made from, if it was made from one -/
  given : Option HeaderValue := none

namespace Header

/-- The header with the given text. -/
def ofText (name raw : String) : Header := { name, raw }

/-- The header with the given value, in its canonical text. -/
def ofValue (name : String) (value : HeaderValue) : Header :=
  { name, raw := value.wire, given := some value }

/-- What the header stands for. -/
def resolve (h : Header) : Except IllegalValue HeaderValue :=
  match h.given with
  | some value => .ok value
  | none => Catalogue.read h.name h.raw

/-- The header has that name, in any case. -/
def hasName (h : Header) (name : String) : Bool := Text.sameCaseless h.name name

/-- The catalogue does not list the header. -/
def isVendorSpecific (h : Header) : Bool := (Catalogue.lookup h.name).isNone

/-- The same header under another spelling of its name. -/
def renamed (h : Header) (name : String) : Header := { h with name }

/-- The line, without its end. -/
def line (h : Header) : String := h.name ++ ":" ++ h.raw

/-- Headers are the same when their names agree in any case and their texts agree. -/
instance : BEq Header where
  beq a b := a.hasName b.name && a.raw == b.raw

end Header

/-- The header lines of a message, first to last. -/
abbrev Headers := List Header

namespace Headers

/-- The first header of that name. -/
def get? (hs : Headers) (name : String) : Option Header := hs.find? fun h => h.hasName name

/-- Some header has that name. -/
def contains (hs : Headers) (name : String) : Bool := (hs.get? name).isSome

/-- Puts the header behind all others, whatever their names. -/
def push (hs : Headers) (h : Header) : Headers := hs ++ [h]

/-- Puts the header in the place of the first one of its name, whose spelling stays; behind all
others, if there is none. -/
def set : Headers → Header → Headers
  | [], h => [h]
  | old :: rest, h =>
    if old.hasName h.name then h.renamed old.name :: rest else old :: Headers.set rest h

/-- Takes the first header of that name away. -/
def erase (hs : Headers) (name : String) : Headers := hs.eraseP fun h => h.hasName name

end Headers

end MediaControl
