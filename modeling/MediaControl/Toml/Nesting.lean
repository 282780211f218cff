import MediaControl.Toml.Item

/-!
# TOML: writing into nested tables

A path of keys leads from a table to one within it; tables that are not there yet come to be on the
way.  The path of a header may lead through any table that is not complete; a dotted key may not
lead through a table that has a header of its own, and ends in a table that dotted keys alone have
made.
-/

set_option autoImplicit false

namespace MediaControl.Toml

/-- The items of a table, by key. -/
abbrev Entries := Table String Item

namespace Entries

/-- Changes the table to which a path leads.  Tables that are not there come to be as `made`. -/
def changeAt (made : TableKind) (change : TableKind → Entries → Option Entries) :
    List String → TableKind → Entries → Option Entries
  | [], kind, entries => change kind entries
  | key :: path, _, entries =>
    match entries.get? key with
    | none => (changeAt made change path made {}).map fun inner =>
        entries.insert key (.table made inner)
    | some (.table kind inner) =>
      if kind = .sealed || (made = .dotted && kind = .headed) then none
      else (changeAt made change path kind inner).map fun inner =>
        entries.insert key (.table kind inner)
    | some (.tables all) =>
      all.getLast?.bind fun last =>
        (changeAt made change path .headed last).map fun last =>
          entries.insert key (.tables (all.dropLast ++ [last]))
    | some _ => none

/-- Changes the table to which the path of a header leads. -/
def within (entries : Entries) (path : List String) (change : Entries → Option Entries) :
    Option Entries :=
  changeAt .implied (fun _ inner => change inner) path .headed entries

/-- Adds an item under a key, which has to be free. -/
def add (entries : Entries) (key : String) (item : Item) : Option Entries :=
  if entries.contains key then none else some (entries.insert key item)

/-- Adds an item under a dotted key. -/
def assign (entries : Entries) (path : List String) (key : String) (item : Item) :
    Option Entries :=
  changeAt .dotted (fun kind inner =>
    if (kind == .dotted) == path.isEmpty then none else inner.add key item) path .headed entries

/-- An item and the key under which it is to be added, with the path that leads there. -/
structure Assignment where
  path : List String
  key : String
  item : Item

/-- Adds items one after the other. -/
def assignAll (entries : Entries) (assignments : List Assignment) : Option Entries :=
  assignments.foldlM (fun entries a => entries.assign a.path a.key a.item) entries

/-- Adds a table under its own header, which may complete a table that was implied so far. -/
def addTable (assignments : List Assignment) (key : String) (entries : Entries) :
    Option Entries := do
  let start ← match entries.get? key with
    | none => some {}
    | some (.table .implied inner) => some inner
    | some _ => none
  return entries.insert key (.table .headed (← Entries.assignAll start assignments))

/-- Adds a table behind those that share its header. -/
def addToTables (assignments : List Assignment) (key : String) (entries : Entries) :
    Option Entries := do
  let others ← match entries.get? key with
    | none => some []
    | some (.tables all) => some all
    | some _ => none
  return entries.insert key (.tables (others ++ [← Entries.assignAll {} assignments]))

end Entries

end MediaControl.Toml
