/-!
# Tables

A table has at most one value for a key.  Adding a value for a key that is there replaces the old
value.

`get?_insert` and `get?_erase` say what is found after a change.
-/

set_option autoImplicit false

namespace MediaControl

/-- Values by key. -/
structure Table (κ ν : Type) where
  rows : List (κ × ν) := []
  deriving Repr

namespace Table

variable {κ ν : Type} [DecidableEq κ]

/-- The value for the key. -/
def get? (t : Table κ ν) (key : κ) : Option ν :=
  (t.rows.find? fun row => row.1 = key).map Prod.snd

/-- The key has a value. -/
def contains (t : Table κ ν) (key : κ) : Bool := (t.get? key).isSome

/-- Takes the key away. -/
def erase (t : Table κ ν) (key : κ) : Table κ ν := ⟨t.rows.filter fun row => row.1 ≠ key⟩

/-- Gives the key that value. -/
def insert (t : Table κ ν) (key : κ) (value : ν) : Table κ ν :=
  ⟨(t.erase key).rows ++ [(key, value)]⟩

omit [DecidableEq κ] in
/-- Keeps the keys that pass the test. -/
def filterKeys (t : Table κ ν) (keep : κ → Bool) : Table κ ν :=
  ⟨t.rows.filter fun row => keep row.1⟩

omit [DecidableEq κ] in
/-- Changes every value. -/
def map {μ : Type} (t : Table κ ν) (f : ν → μ) : Table κ μ :=
  ⟨t.rows.map fun row => (row.1, f row.2)⟩

omit [DecidableEq κ] in
/-- How many keys have a value. -/
def size (t : Table κ ν) : Nat := t.rows.length

omit [DecidableEq κ] in
/-- The keys, oldest first. -/
def keys (t : Table κ ν) : List κ := t.rows.map Prod.fst

omit [DecidableEq κ] in
/-- The values, oldest first. -/
def values (t : Table κ ν) : List ν := t.rows.map Prod.snd

@[simp] theorem get?_empty (key : κ) : get? (⟨[]⟩ : Table κ ν) key = none := rfl

theorem get?_erase (t : Table κ ν) (key other : κ) :
    (t.erase key).get? other = if other = key then none else t.get? other := by
  unfold erase get?
  induction t.rows with
  | nil => split <;> rfl
  | cons row rows ih =>
    by_cases hkey : row.1 = key
    · by_cases hother : other = key
      · simp_all
      · have hne : row.1 ≠ other := fun h => hother (h ▸ hkey)
        simp_all
    · by_cases hother : row.1 = other
      · have hne : other ≠ key := fun h => hkey (hother.trans h)
        simp_all
      · simp_all

theorem get?_insert (t : Table κ ν) (key other : κ) (value : ν) :
    (t.insert key value).get? other = if other = key then some value else t.get? other := by
  have herase := get?_erase t key other
  unfold insert get? at *
  rw [List.find?_append, Option.map_or, herase]
  by_cases hother : other = key
  · simp [hother]
  · have hne : key ≠ other := fun h => hother h.symm
    simp [hother, hne]

end Table

end MediaControl
