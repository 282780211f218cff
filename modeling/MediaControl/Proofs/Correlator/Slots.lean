import MediaControl.Correlator
import MediaControl.Proofs.Table

/-!
# What an operation does to the slots

An item that is put into a slot arrives behind what waits there, if the slot is held, and nowhere
else.  Ending many requests at once puts the failure once into the slot of each, because no two of
them share a slot.

Main statements: `get?_slots_failWhere_of_failing` and `get?_slots_failWhere_of_not`.
-/

set_option autoImplicit false

namespace MediaControl.Correlator

/-- What waits in a slot. -/
def waiting (slots : Table Nat Slot) (slot : Nat) : List (Except Error Message) :=
  ((slots.get? slot).getD {}).items

variable {slots : Table Nat Slot} {slot other : Nat} {item : Except Error Message}

/-! ## One item -/

theorem get?_pushInto (slots : Table Nat Slot) (slot : Nat) (item : Except Error Message)
    (other : Nat) :
    (pushInto slots slot item).get? other =
      if other = slot then (slots.get? slot).map (fun line => line.push item)
      else slots.get? other := by
  unfold pushInto
  cases hline : slots.get? slot with
  | none =>
      by_cases hother : other = slot
      · simp [hother, hline]
      · simp [hother]
  | some line =>
      simp only [Table.get?_insert]
      rfl

@[simp] theorem contains_pushInto (slots : Table Nat Slot) (slot : Nat)
    (item : Except Error Message) (other : Nat) :
    (pushInto slots slot item).contains other = slots.contains other := by
  unfold Table.contains
  rw [get?_pushInto]
  split
  · rename_i hsame
    rw [hsame, Option.isSome_map]
  · rfl

theorem waiting_pushInto_self (h : slots.contains slot = true) :
    waiting (pushInto slots slot item) slot = waiting slots slot ++ [item] := by
  obtain ⟨line, hline⟩ := Option.isSome_iff_exists.mp h
  simp [waiting, get?_pushInto, hline, Mailbox.push]

theorem get?_pushInto_of_ne (h : other ≠ slot) :
    (pushInto slots slot item).get? other = slots.get? other := by
  rw [get?_pushInto, if_neg h]

/-! ## Many items -/

/-- The item arrives once in every slot of a list without repetitions. -/
theorem get?_foldl_pushInto {entries : List Outstanding}
    (h : (entries.map Outstanding.slot).Nodup) (slots : Table Nat Slot)
    (item : Except Error Message) (slot : Nat) :
    (entries.foldl (fun slots entry => pushInto slots entry.slot item) slots).get? slot =
      if slot ∈ entries.map Outstanding.slot then
        (slots.get? slot).map (fun line => line.push item)
      else slots.get? slot := by
  induction entries generalizing slots with
  | nil => rfl
  | cons entry entries ih =>
      obtain ⟨hfirst, hrest⟩ := List.nodup_cons.mp h
      rw [List.foldl_cons, ih hrest, List.map_cons]
      by_cases hslot : slot = entry.slot
      · rw [hslot, if_neg hfirst, if_pos (List.mem_cons_self ..), get?_pushInto, if_pos rfl]
      · rw [get?_pushInto_of_ne hslot]
        simp [hslot]

/-- No request has two entries, and no two entries have one slot. -/
structure Distinct (c : Correlator) : Prop where
  keys : c.entries.keys.Nodup
  slots : ∀ key other o o', c.entries.get? key = some o → c.entries.get? other = some o' →
    o.slot = o'.slot → key = other

section failWhere

variable {c : Correlator} {isFailing : String → Bool}

theorem mem_failing_iff (h : c.Distinct) {slot : Nat} :
    slot ∈ ((c.entries.filterKeys fun key => isFailing key.1).values).map Outstanding.slot ↔
      ∃ key o, c.entries.get? key = some o ∧ isFailing key.1 = true ∧ o.slot = slot := by
  simp only [Table.values, Table.filterKeys, List.mem_map, List.mem_filter]
  constructor
  · rintro ⟨o, ⟨⟨key, o'⟩, ⟨hrow, hfailing⟩, rfl⟩, hslot⟩
    exact ⟨key, o', (Table.mem_rows_iff h.keys).mp hrow, hfailing, hslot⟩
  · rintro ⟨key, o, hget, hfailing, hslot⟩
    exact ⟨o, ⟨(key, o), ⟨Table.mem_rows_of_get? hget, hfailing⟩, rfl⟩, hslot⟩

theorem nodup_failing (h : c.Distinct) :
    (((c.entries.filterKeys fun key => isFailing key.1).values).map Outstanding.slot).Nodup := by
  have hkeys := Table.nodup_keys_filterKeys h.keys fun key => isFailing key.1
  rw [Table.values, List.map_map]
  refine List.Nodup.map_on ?_ (List.Nodup.of_map Prod.fst hkeys)
  rintro ⟨key, o⟩ hrow ⟨other, o'⟩ hrow' hslot
  have hget := (Table.mem_rows_iff h.keys).mp (List.mem_of_mem_filter hrow)
  have hget' := (Table.mem_rows_iff h.keys).mp (List.mem_of_mem_filter hrow')
  obtain rfl := h.slots key other o o' hget hget' hslot
  rw [hget] at hget'
  rw [Option.some.inj hget']

/-- The failure arrives once in the slot of a request that is ended. -/
theorem get?_slots_failWhere_of_failing (h : c.Distinct) {key : String × Nat} {o : Outstanding}
    (hget : c.entries.get? key = some o) (hfailing : isFailing key.1 = true) (reason : Error) :
    (c.failWhere isFailing reason).slots.get? o.slot =
      (c.slots.get? o.slot).map fun line => line.push (.error (.closing reason)) := by
  rw [failWhere, get?_foldl_pushInto (nodup_failing h)]
  exact if_pos ((mem_failing_iff h).mpr ⟨key, o, hget, hfailing, rfl⟩)

/-- Nothing arrives in the slot of any other request. -/
theorem get?_slots_failWhere_of_not (h : c.Distinct) {slot : Nat}
    (hnone : ∀ key o, c.entries.get? key = some o → isFailing key.1 = true → o.slot ≠ slot)
    (reason : Error) :
    (c.failWhere isFailing reason).slots.get? slot = c.slots.get? slot := by
  rw [failWhere, get?_foldl_pushInto (nodup_failing h)]
  refine if_neg ?_
  intro hmem
  obtain ⟨key, o, hget, hfailing, hslot⟩ := (mem_failing_iff h).mp hmem
  exact hnone key o hget hfailing hslot

theorem get?_entries_failWhere (c : Correlator) (isFailing : String → Bool) (reason : Error)
    (key : String × Nat) :
    (c.failWhere isFailing reason).entries.get? key =
      if isFailing key.1 then none else c.entries.get? key := by
  rw [failWhere, Table.get?_filterKeys]
  cases isFailing key.1 <;> rfl

end failWhere

end MediaControl.Correlator
