import MediaControl.Proofs.Correlator.Ledger

/-!
# Runs of a correlator (SPEC_FULL §4.4)

Giving out a slot makes an entry for which nothing has come; every other operation moves what has
come, strikes entries out, or puts one item into the slot of an entry that waits for it.

Main statements: `Sound.run` (every ledger of a run is sound) and `slots_safe` (what a slot is given,
over any run).
-/

set_option autoImplicit false

namespace MediaControl.Correlator

namespace Ledger

variable {l : Ledger}

/-! ## Giving out a slot -/

theorem Sound.received_untouched (h : l.Sound) {slot : Nat}
    (hslot : l.correlator.nextSlot ≤ slot) : l.received slot = [] := by
  obtain ⟨hgone, hnone⟩ := h.untouched slot hslot
  rw [received, waiting, hgone, hnone]
  rfl

theorem Sound.received_register (h : l.Sound) (channel : String) (id slot : Nat) :
    (l.step (.register channel id)).received slot = l.received slot := by
  by_cases hslot : slot = l.correlator.nextSlot
  · have hnone := (h.untouched slot (Nat.le_of_eq hslot.symm)).2
    simp [received, step, Correlator.register, waiting, Table.get?_insert, ← hslot, hnone]
  · simp [received, step, Correlator.register, waiting, Table.get?_insert, hslot]

theorem Sound.register (h : l.Sound) (channel : String) (id : Nat) :
    (l.step (.register channel id)).Sound where
  keys := Table.nodup_keys_insert h.keys _ _
  nodup := by
    refine List.nodup_cons.mpr ⟨?_, h.nodup⟩
    intro hmem
    obtain ⟨i, hi, hslot⟩ := List.mem_map.mp hmem
    exact absurd hslot (Nat.ne_of_lt (h.slot_lt i hi))
  slot_lt := by
    intro i hi
    rcases List.mem_cons.mp hi with rfl | hi
    · exact Nat.lt_succ_self _
    · exact Nat.lt_succ_of_lt (h.slot_lt i hi)
  untouched := by
    intro slot hslot
    have hlt : l.correlator.nextSlot < slot := hslot
    obtain ⟨hgone, hnone⟩ := h.untouched slot (Nat.le_of_lt hlt)
    refine ⟨hgone, ?_⟩
    rw [step, Correlator.register, Table.get?_insert, if_neg (Nat.ne_of_gt hlt)]
    exact hnone
  entry := by
    intro key o ho
    rw [h.received_register]
    simp only [step, Correlator.register, Table.get?_insert] at ho ⊢
    split at ho
    · rename_i hkey
      obtain rfl := Option.some.inj ho
      rw [h.received_untouched (Nat.le_refl _)]
      exact ⟨⟨_, List.mem_cons_self .., rfl, hkey.symm⟩, .sent⟩
    · obtain ⟨⟨i, hi, hio, hikey⟩, hprogress⟩ := h.entry key o ho
      exact ⟨⟨i, List.mem_cons_of_mem _ hi, hio, hikey⟩, hprogress⟩
  isLegal := by
    intro i hi
    rw [h.received_register]
    rcases List.mem_cons.mp hi with rfl | hi
    · rw [h.received_untouched (Nat.le_refl _)]
      exact Progress.sent.isLegal
    · exact h.isLegal i hi
  concerns := by
    intro i hi m hm
    rw [h.received_register] at hm
    rcases List.mem_cons.mp hi with rfl | hi
    · rw [h.received_untouched (Nat.le_refl _)] at hm
      cases hm
    · exact h.concerns i hi m hm

/-! ## Every other operation -/

theorem Sound.follows_forget (h : l.Sound) (channel : String) (id : Nat) :
    Follows l (l.step (.forget channel id)) := by
  refine h.follows_of_received_eq rfl rfl (Table.nodup_keys_erase h.keys _) ?_ ?_ fun _ => rfl
  · intro slot hnone
    exact ⟨rfl, hnone⟩
  · intro key o ho
    rw [step, Correlator.forget, Table.get?_erase] at ho
    split at ho
    · cases ho
    · exact ho

/-- What is taken out of a slot was the oldest item there. -/
theorem take?_eq_some {c c' : Correlator} {slot : Nat} {item : Except Error Message}
    (h : c.take? slot = some (item, c')) :
    ∃ items, c.slots.get? slot = some ⟨item :: items⟩ ∧
      c' = { c with slots := c.slots.insert slot ⟨items⟩ } := by
  unfold take? at h
  cases hline : c.slots.get? slot with
  | none =>
      rw [hline] at h
      cases h
  | some line =>
      rcases line with ⟨items⟩
      rw [hline] at h
      cases items with
      | nil => cases h
      | cons first items =>
          cases h
          exact ⟨items, rfl, rfl⟩

theorem received_take (l : Ledger) (slot other : Nat) :
    (l.step (.take slot)).received other = l.received other := by
  simp only [step]
  cases htake : l.correlator.take? slot with
  | none => rfl
  | some taken =>
      rcases taken with ⟨item, c⟩
      obtain ⟨items, hline, rfl⟩ := take?_eq_some htake
      by_cases hother : other = slot
      · simp [received, leave, waiting, Table.get?_insert, hother, hline]
      · simp [received, leave, waiting, Table.get?_insert, hother]

theorem Sound.follows_take (h : l.Sound) (slot : Nat) : Follows l (l.step (.take slot)) := by
  have hreceived := l.received_take slot
  simp only [step] at hreceived ⊢
  cases htake : l.correlator.take? slot with
  | none =>
      exact h.follows_of_received_eq rfl rfl h.keys (fun _ hnone => ⟨rfl, hnone⟩)
        (fun _ _ ho => ho) fun _ => rfl
  | some taken =>
      rw [htake] at hreceived
      rcases taken with ⟨item, c⟩
      obtain ⟨items, hline, rfl⟩ := take?_eq_some htake
      refine h.follows_of_received_eq rfl rfl h.keys ?_ (fun _ _ ho => ho) hreceived
      intro other hnone
      have hother : other ≠ slot := by
        rintro rfl
        rw [hline] at hnone
        cases hnone
      exact ⟨if_neg hother, by rw [Table.get?_insert, if_neg hother, hnone]⟩

theorem received_drop (l : Ledger) (slot other : Nat) :
    (l.step (.drop slot)).received other = l.received other := by
  by_cases hother : other = slot
  · simp [received, step, Correlator.drop, leave, waiting, Table.get?_erase, hother]
  · simp [received, step, Correlator.drop, leave, waiting, Table.get?_erase, hother]

theorem Sound.follows_drop (h : l.Sound) (slot : Nat) : Follows l (l.step (.drop slot)) := by
  refine h.follows_of_received_eq rfl rfl h.keys ?_ (fun _ _ ho => ho) (l.received_drop slot)
  intro other hnone
  constructor
  · by_cases hother : other = slot
    · simp [step, leave, waiting, ← hother, hnone]
    · exact if_neg hother
  · rw [step, Correlator.drop, Table.get?_erase]
    split
    · rfl
    · exact hnone

theorem received_push (l : Ledger) {slot : Nat} (item : Except Error Message)
    (hheld : l.correlator.slots.contains slot = true)
    (entries : Table (String × Nat) Outstanding) :
    let slots := pushInto l.correlator.slots slot item
    let l' := { l with correlator := { l.correlator with entries, slots } }
    l'.received slot = l.received slot ++ [item] ∧
      ∀ other, other ≠ slot → l'.received other = l.received other := by
  constructor
  · simp only [received, waiting_pushInto_self hheld, List.append_assoc]
  · intro other hother
    simp only [received, waiting, get?_pushInto_of_ne hother]

/-- The entries of other requests have other slots, in which nothing is put. -/
theorem Sound.entry_of_ne (h : l.Sound) {l' : Ledger} {key other : String × Nat}
    {o o' : Outstanding} (ho : l.correlator.entries.get? key = some o)
    (ho' : l.correlator.entries.get? other = some o') (hne : other ≠ key)
    (hreceived : ∀ slot, slot ≠ o.slot → l'.received slot = l.received slot) :
    (∃ o₀, l.correlator.entries.get? other = some o₀ ∧ o₀.slot = o'.slot) ∧
      Progress o'.awaits (l'.received o'.slot) := by
  have hslot : o'.slot ≠ o.slot := fun heq => hne (h.distinct.slots other key o' o ho' ho heq)
  rw [hreceived _ hslot]
  exact ⟨⟨o', ho', rfl⟩, (h.entry other o' ho').2⟩

theorem Sound.follows_handle (h : l.Sound) (m : Message) : Follows l (l.step (.handle m)) := by
  have hcases := handle_cases l.correlator m
  rw [step]
  generalize l.correlator.handle m = result at hcases
  cases hcases with
  | returned =>
      exact h.follows_of_received_eq rfl rfl h.keys (fun _ hnone => ⟨rfl, hnone⟩)
        (fun _ _ ho => ho) fun _ => rfl
  | @struckOut channel o hchannel hentry hslot =>
      refine h.follows_of_received_eq rfl rfl (Table.nodup_keys_erase h.keys _) ?_ ?_ fun _ => rfl
      · intro slot hnone
        exact ⟨rfl, hnone⟩
      · intro key o ho
        simp only [Table.get?_erase] at ho
        split at ho
        · cases ho
        · exact ho
  | @taken channel o ends hchannel hentry hslot hfits =>
      have hprogress := (h.entry _ o hentry).2
      have hpushed := l.received_push (.ok m) hslot
      refine ⟨rfl, rfl, nodup_keys_advance h.keys _ _ _, ?_, ?_, ?_⟩
      · intro slot hnone
        refine ⟨rfl, ?_⟩
        have hcontains := contains_pushInto l.correlator.slots o.slot (.ok m) slot
        rw [Table.contains, Table.contains, hnone] at hcontains
        simpa using hcontains
      · intro key o' ho'
        simp only [get?_advance] at ho'
        split at ho'
        · rename_i hkey
          cases ends with
          | true => cases ho'
          | false =>
              cases ho'
              rw [(hpushed _).1]
              exact ⟨⟨o, hkey ▸ hentry, rfl⟩, hprogress.advance hfits⟩
        · rename_i hne
          exact h.entry_of_ne hentry ho' hne (hpushed _).2
      · intro slot
        by_cases heq : slot = o.slot
        · subst heq
          refine .item (.ok m) hentry rfl (hpushed _).1 ?_ ?_
          · rw [(hpushed _).1]
            exact hprogress.isLegal_append hfits
          · intro m' hm'
            cases hm'
            exact ⟨channel, hchannel, rfl⟩
        · exact .nothing ((hpushed _).2 slot heq)

/-- Requests end with a failure. -/
def failWhere (l : Ledger) (isFailing : String → Bool) (reason : Error) : Ledger :=
  { l with correlator := l.correlator.failWhere isFailing reason }

section failWhere

variable {isFailing : String → Bool}

theorem Sound.received_failWhere_of_failing (h : l.Sound) {key : String × Nat} {o : Outstanding}
    (hget : l.correlator.entries.get? key = some o) (hfailing : isFailing key.1 = true)
    (hheld : l.correlator.slots.contains o.slot = true) (reason : Error) :
    (l.failWhere isFailing reason).received o.slot =
      l.received o.slot ++ [.error (.closing reason)] := by
  obtain ⟨line, hline⟩ := Option.isSome_iff_exists.mp hheld
  have hslots := get?_slots_failWhere_of_failing h.distinct hget hfailing reason
  simp [received, failWhere, waiting, hslots, hline, Mailbox.push]

/-- Nothing comes for any other request. -/
theorem Sound.received_failWhere_of_not (h : l.Sound) {slot : Nat}
    (hnone : ∀ key o, l.correlator.entries.get? key = some o → isFailing key.1 = true →
      l.correlator.slots.contains o.slot = true → o.slot ≠ slot) (reason : Error) :
    (l.failWhere isFailing reason).received slot = l.received slot := by
  by_cases hfailing : ∃ key o, l.correlator.entries.get? key = some o ∧
      isFailing key.1 = true ∧ o.slot = slot
  · obtain ⟨key, o, hget, hkey, rfl⟩ := hfailing
    have hslots := get?_slots_failWhere_of_failing h.distinct hget hkey reason
    cases hline : l.correlator.slots.get? o.slot with
    | none => simp [received, failWhere, waiting, hslots, hline]
    | some line => exact absurd rfl (hnone key o hget hkey (by rw [Table.contains, hline]; rfl))
  · have hslots : (l.correlator.failWhere isFailing reason).slots.get? slot =
        l.correlator.slots.get? slot := by
      refine get?_slots_failWhere_of_not h.distinct ?_ reason
      intro key o hget hkey hslot
      exact hfailing ⟨key, o, hget, hkey, hslot⟩
    simp only [received, failWhere, waiting, hslots]

/-- Who held a slot holds it still, and nobody else does. -/
theorem Sound.contains_failWhere (h : l.Sound) (isFailing : String → Bool) (reason : Error)
    (slot : Nat) :
    (l.failWhere isFailing reason).correlator.slots.contains slot =
      l.correlator.slots.contains slot := by
  rw [Table.contains, Table.contains, failWhere]
  by_cases hfailing : ∃ key o, l.correlator.entries.get? key = some o ∧
      isFailing key.1 = true ∧ o.slot = slot
  · obtain ⟨key, o, hget, hkey, rfl⟩ := hfailing
    rw [get?_slots_failWhere_of_failing h.distinct hget hkey, Option.isSome_map]
  · rw [get?_slots_failWhere_of_not h.distinct]
    intro key o hget hkey hslot
    exact hfailing ⟨key, o, hget, hkey, hslot⟩

theorem Sound.follows_failWhere (h : l.Sound) (isFailing : String → Bool) (reason : Error) :
    Follows l (l.failWhere isFailing reason) := by
  refine ⟨rfl, rfl, Table.nodup_keys_filterKeys h.keys _, ?_, ?_, ?_⟩
  · intro slot hnone
    have hcontains := h.contains_failWhere isFailing reason slot
    rw [Table.contains, Table.contains, hnone] at hcontains
    exact ⟨rfl, by simpa using hcontains⟩
  · intro key o ho
    rw [Ledger.failWhere, get?_entries_failWhere] at ho
    split at ho
    · cases ho
    · rename_i hkept
      rw [h.received_failWhere_of_not]
      · exact ⟨⟨o, ho, rfl⟩, (h.entry key o ho).2⟩
      · intro other o' hget hfailing _ hslot
        exact hkept (h.distinct.slots other key o' o hget ho hslot ▸ hfailing)
  · intro slot
    by_cases hfailing : ∃ key o, l.correlator.entries.get? key = some o ∧
        isFailing key.1 = true ∧ l.correlator.slots.contains o.slot = true ∧ o.slot = slot
    · obtain ⟨key, o, hget, hkey, hheld, rfl⟩ := hfailing
      have hmore := h.received_failWhere_of_failing hget hkey hheld reason
      refine .item (.error (.closing reason)) hget rfl hmore ?_ ?_
      · rw [hmore]
        exact ((h.entry key o hget).2.fail reason).isLegal
      · intro m hm
        cases hm
    · refine .nothing (h.received_failWhere_of_not ?_ reason)
      intro key o hget hkey hheld hslot
      exact hfailing ⟨key, o, hget, hkey, hheld, hslot⟩

end failWhere

/-! ## Runs -/

theorem Sound.step (h : l.Sound) (op : Op) : (l.step op).Sound := by
  cases op with
  | register channel id => exact h.register channel id
  | forget channel id => exact h.of_follows (h.follows_forget channel id)
  | handle m => exact h.of_follows (h.follows_handle m)
  | take slot => exact h.of_follows (h.follows_take slot)
  | drop slot => exact h.of_follows (h.follows_drop slot)
  | failChannel channel reason => exact h.of_follows (h.follows_failWhere _ reason)
  | failAll reason => exact h.of_follows (h.follows_failWhere _ reason)

theorem Sound.run (h : l.Sound) (ops : List Op) : (l.run ops).Sound := by
  induction ops generalizing l with
  | nil => exact h
  | cons op ops ih => exact ih (h.step op)

/-- Over every run of a correlator, a slot that was given out is given nothing but the front of what
comes for one request in all, and every message in it names the channel and the id of that request;
and whatever the run, the next message goes into exactly one slot or comes back. -/
theorem slots_safe (ops : List Op) :
    (∀ i ∈ (run {} ops).issued,
      (∃ whole, Settled whole ∧ (run {} ops).received i.slot <+: whole) ∧
        ∀ m, .ok m ∈ (run {} ops).received i.slot → i.Concerns m) ∧
    ((run {} ops).issued.map Issue.slot).Nodup ∧
    ∀ m, (run {} ops).correlator.HandledOnce m := by
  have hsound := sound_empty.run ops
  refine ⟨?_, hsound.nodup, handledOnce _⟩
  intro i hi
  exact ⟨hsound.isLegal i hi, hsound.concerns i hi⟩

end Ledger

end MediaControl.Correlator
