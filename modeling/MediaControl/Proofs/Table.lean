import MediaControl.Table
import Mathlib.Data.List.Nodup

/-!
# What is in a table

Insertion never gives a key a second row, so the rows of a table that was made by the table's own
operations are its values by key.

Main statements: `mem_rows_iff` (a row is a key with its value), `rows_insert` (a new key comes behind
all others) and `get?_filterKeys`.
-/

set_option autoImplicit false

namespace MediaControl.Table

variable {κ ν : Type}

/-! ## One row for a key -/

theorem nodup_keys_filterKeys {t : Table κ ν} (h : t.keys.Nodup) (keep : κ → Bool) :
    (t.filterKeys keep).keys.Nodup :=
  h.sublist (List.filter_sublist.map Prod.fst)

variable [DecidableEq κ]

theorem nodup_keys_erase {t : Table κ ν} (h : t.keys.Nodup) (key : κ) : (t.erase key).keys.Nodup :=
  h.sublist (List.filter_sublist.map Prod.fst)

theorem notMem_keys_erase (t : Table κ ν) (key : κ) : key ∉ (t.erase key).keys := by
  intro hmem
  obtain ⟨row, hrow, hkey⟩ := List.mem_map.mp hmem
  have hne := (List.mem_filter.mp hrow).2
  exact absurd hkey (of_decide_eq_true hne)

theorem nodup_keys_insert {t : Table κ ν} (h : t.keys.Nodup) (key : κ) (value : ν) :
    (t.insert key value).keys.Nodup := by
  have hkeys : (t.insert key value).keys = (t.erase key).keys ++ [key] := by
    simp [keys, insert]
  rw [hkeys]
  refine List.nodup_append.mpr ⟨nodup_keys_erase h key, List.nodup_singleton key, ?_⟩
  intro other hother last hlast heq
  rw [List.mem_singleton.mp hlast] at heq
  exact notMem_keys_erase t key (heq ▸ hother)

/-! ## Rows and values -/

theorem mem_rows_of_get? {t : Table κ ν} {key : κ} {value : ν} (h : t.get? key = some value) :
    (key, value) ∈ t.rows := by
  obtain ⟨row, hfind, hvalue⟩ := Option.map_eq_some_iff.mp h
  have hkey : row.1 = key := by simpa using List.find?_some hfind
  have hmem := List.mem_of_find?_eq_some hfind
  rcases row with ⟨other, found⟩
  subst hkey hvalue
  exact hmem

theorem mem_keys_of_get? {t : Table κ ν} {key : κ} {value : ν} (h : t.get? key = some value) :
    key ∈ t.keys :=
  List.mem_map.mpr ⟨(key, value), mem_rows_of_get? h, rfl⟩

/-- A row is a key with its value. -/
theorem mem_rows_iff {t : Table κ ν} (h : t.keys.Nodup) {key : κ} {value : ν} :
    (key, value) ∈ t.rows ↔ t.get? key = some value := by
  refine ⟨?_, mem_rows_of_get?⟩
  intro hmem
  have hsome : (t.get? key).isSome := by
    rw [get?, Option.isSome_map, List.find?_isSome]
    exact ⟨(key, value), hmem, by simp⟩
  obtain ⟨found, hfound⟩ := Option.isSome_iff_exists.mp hsome
  have heq := List.inj_on_of_nodup_map h hmem (mem_rows_of_get? hfound) rfl
  rw [hfound, (Prod.mk.inj heq).2]

theorem get?_eq_none_iff {t : Table κ ν} {key : κ} : t.get? key = none ↔ key ∉ t.keys := by
  rw [get?, Option.map_eq_none_iff, List.find?_eq_none, keys, List.mem_map]
  simp only [decide_eq_true_eq, not_exists, not_and]

theorem size_eq_zero {t : Table κ ν} (h : ∀ key, t.get? key = none) : t.size = 0 := by
  rw [size, List.length_eq_zero_iff]
  cases hrows : t.rows with
  | nil => rfl
  | cons row rows =>
      have hnone := h row.1
      simp [get?, hrows] at hnone

/-! ## Keys that have no value -/

theorem erase_eq_self {t : Table κ ν} {key : κ} (h : t.get? key = none) : t.erase key = t := by
  have hother : ∀ row ∈ t.rows, decide (row.1 ≠ key) = true := by
    have hnone := List.find?_eq_none.mp (Option.map_eq_none_iff.mp h)
    intro row hrow
    apply decide_eq_true
    intro hkey
    exact hnone row hrow (decide_eq_true hkey)
  rw [erase, List.filter_eq_self.mpr hother]

/-- A new key comes behind all others. -/
theorem rows_insert {t : Table κ ν} {key : κ} (h : t.get? key = none) (value : ν) :
    (t.insert key value).rows = t.rows ++ [(key, value)] := by
  rw [insert, erase_eq_self h]

theorem erase_insert (t : Table κ ν) (key : κ) (value : ν) :
    (t.insert key value).erase key = t.erase key := by
  simp [erase, insert, List.filter_filter]

/-! ## Changed tables -/

theorem get?_filterKeys (t : Table κ ν) (keep : κ → Bool) (key : κ) :
    (t.filterKeys keep).get? key = if keep key then t.get? key else none := by
  rw [filterKeys, get?, get?, List.find?_filter]
  by_cases hkeep : keep key = true
  · rw [if_pos hkeep]
    congr 2
    funext row
    by_cases hkey : row.1 = key
    · simp [hkey, hkeep]
    · simp [hkey]
  · rw [if_neg hkeep, Option.map_eq_none_iff, List.find?_eq_none]
    intro row _ hboth
    obtain ⟨hkept, hkey⟩ := of_decide_eq_true hboth
    rw [of_decide_eq_true hkey] at hkept
    exact hkeep hkept

omit [DecidableEq κ] in
theorem keys_map {μ : Type} (t : Table κ ν) (f : ν → μ) : (t.map f).keys = t.keys := by
  simp [keys, map]

theorem get?_map {μ : Type} (t : Table κ ν) (f : ν → μ) (key : κ) :
    (t.map f).get? key = (t.get? key).map f := by
  unfold map get?
  rw [List.find?_map, Option.map_map, Option.map_map]
  rfl

end MediaControl.Table
