import MediaControl.Proofs.Correlator.Runs
import MediaControl.Proofs.Text.Words

/-!
# Ending many requests at once (SPEC_FULL §4.4)

When requests end with a failure, their entries go, the failure arrives once in every slot that is
held, and nothing else changes.  Whoever is told depends on the entries alone, so ending the requests
of two sets of channels one after the other is ending those of both at once; and no order in which
channels fail, nor failing one of them again, makes a difference.

Main statements: `failWhere_failWhere` (two sets of channels are one), `alike_failEach` (channels one
after the other are all of them at once) and `channels_fail_once`.
-/

set_option autoImplicit false

namespace MediaControl.Correlator

variable {c c' : Correlator} {isFailing : String → Bool}

/-! ## Who is told -/

/-- A request that is to end has the slot. -/
def Fails (c : Correlator) (isFailing : String → Bool) (slot : Nat) : Prop :=
  ∃ key o, c.entries.get? key = some o ∧ isFailing key.1 = true ∧ o.slot = slot

/-- The failure arrives in the slots of the requests that end, and nowhere else. -/
theorem get?_slots_failWhere (h : c.Distinct) (isFailing : String → Bool) (reason : Error)
    (slot : Nat) :
    (c.Fails isFailing slot → (c.failWhere isFailing reason).slots.get? slot =
        (c.slots.get? slot).map fun line => line.push (.error (.closing reason))) ∧
      (¬ c.Fails isFailing slot →
        (c.failWhere isFailing reason).slots.get? slot = c.slots.get? slot) := by
  constructor
  · rintro ⟨key, o, hget, hfailing, rfl⟩
    exact get?_slots_failWhere_of_failing h hget hfailing reason
  · intro hnone
    refine get?_slots_failWhere_of_not h ?_ reason
    intro key o hget hfailing hslot
    exact hnone ⟨key, o, hget, hfailing, hslot⟩

theorem Distinct.failWhere (h : c.Distinct) (isFailing : String → Bool) (reason : Error) :
    (c.failWhere isFailing reason).Distinct where
  keys := Table.nodup_keys_filterKeys h.keys _
  slots := by
    intro key other o o' ho ho' hslot
    rw [get?_entries_failWhere] at ho ho'
    split at ho
    · cases ho
    · split at ho'
      · cases ho'
      · exact h.slots key other o o' ho ho' hslot

/-! ## In one go or in several -/

/-- The same requests are outstanding, and the same waits in every slot. -/
structure Alike (c c' : Correlator) : Prop where
  entries : c.entries = c'.entries
  slots : ∀ slot, c.slots.get? slot = c'.slots.get? slot
  nextSlot : c.nextSlot = c'.nextSlot

theorem Alike.trans {c₁ c₂ c₃ : Correlator} (h : Alike c₁ c₂) (h' : Alike c₂ c₃) : Alike c₁ c₃ where
  entries := h.entries.trans h'.entries
  slots := fun slot => (h.slots slot).trans (h'.slots slot)
  nextSlot := h.nextSlot.trans h'.nextSlot

/-- After some requests have ended, those that end next are the others that were to end. -/
theorem fails_failWhere_iff (h : c.Distinct) (p q : String → Bool) (reason : Error) {slot : Nat} :
    (c.failWhere p reason).Fails q slot ↔ ¬ c.Fails p slot ∧ c.Fails q slot := by
  constructor
  · rintro ⟨key, o, hget, hq, hslot⟩
    rw [get?_entries_failWhere] at hget
    split at hget
    · cases hget
    · rename_i hp
      refine ⟨?_, key, o, hget, hq, hslot⟩
      rintro ⟨other, o', hget', hp', hslot'⟩
      obtain rfl := h.slots key other o o' hget hget' (hslot.trans hslot'.symm)
      exact hp hp'
  · rintro ⟨hnone, key, o, hget, hq, hslot⟩
    refine ⟨key, o, ?_, hq, hslot⟩
    rw [get?_entries_failWhere, if_neg]
    · exact hget
    · exact fun hp => hnone ⟨key, o, hget, hp, hslot⟩

/-- Ending some requests and then others is ending them all at once. -/
theorem failWhere_failWhere (h : c.Distinct) (p q : String → Bool) (reason : Error) :
    Alike ((c.failWhere p reason).failWhere q reason)
      (c.failWhere (fun key => p key || q key) reason) where
  entries := by
    simp only [failWhere, Table.filterKeys, List.filter_filter, Bool.not_or]
    congr 2
    funext row
    exact Bool.and_comm _ _
  slots := by
    intro slot
    have hboth : c.Fails (fun key => p key || q key) slot ↔ c.Fails p slot ∨ c.Fails q slot := by
      simp only [Fails, Bool.or_eq_true, or_and_right, and_or_left, exists_or]
    obtain ⟨htold, hspared⟩ := get?_slots_failWhere h p reason slot
    obtain ⟨htold', hspared'⟩ := get?_slots_failWhere (h.failWhere p reason) q reason slot
    obtain ⟨htoldBoth, hsparedBoth⟩ :=
      get?_slots_failWhere h (fun key => p key || q key) reason slot
    rw [fails_failWhere_iff h] at htold' hspared'
    rw [hboth] at htoldBoth hsparedBoth
    -- the slot has one request, which ends the first time or the second, but not twice
    by_cases hp : c.Fails p slot
    · rw [hspared' (fun hboth => hboth.1 hp), htold hp, htoldBoth (.inl hp)]
    · by_cases hq : c.Fails q slot
      · rw [htold' ⟨hp, hq⟩, hspared hp, htoldBoth (.inr hq)]
      · rw [hspared' (fun hboth => hq hboth.2), hspared hp,
          hsparedBoth (fun hboth => hboth.elim hp hq)]
  nextSlot := rfl

/-- Which requests end depends on the channels that have entries. -/
theorem failWhere_congr {p q : String → Bool} (h : ∀ key ∈ c.entries.keys, p key.1 = q key.1)
    (reason : Error) : c.failWhere p reason = c.failWhere q reason := by
  have hrows : ∀ row ∈ c.entries.rows, p row.1.1 = q row.1.1 := fun row hrow =>
    h row.1 (List.mem_map_of_mem hrow)
  have hfailing : c.entries.filterKeys (fun key => p key.1) =
      c.entries.filterKeys fun key => q key.1 := by
    rw [Table.filterKeys, Table.filterKeys, List.filter_congr hrows]
  have hkept : c.entries.filterKeys (fun key => !p key.1) =
      c.entries.filterKeys fun key => !q key.1 := by
    rw [Table.filterKeys, Table.filterKeys, List.filter_congr fun row hrow => by rw [hrows row hrow]]
  simp only [failWhere, hfailing, hkept]

/-! ## Channel by channel -/

/-- Channels fail one after the other. -/
def failEach (c : Correlator) (channels : List String) (reason : Error) : Correlator :=
  channels.foldl (fun c channel => c.failChannel channel reason) c

/-- That ends the requests of all of them at once. -/
theorem alike_failEach (h : c.Distinct) (channels : List String) (reason : Error) :
    Alike (c.failEach channels reason)
      (c.failWhere (fun key => decide (key ∈ channels.map Text.trim)) reason) := by
  induction channels generalizing c with
  | nil =>
      refine ⟨?_, ?_, rfl⟩
      · simp [failEach, failWhere, Table.filterKeys]
      · intro slot
        refine ((get?_slots_failWhere h _ reason slot).2 ?_).symm
        rintro ⟨key, o, -, hfailing, -⟩
        simp at hfailing
  | cons channel channels ih =>
      have hfirst := h.failWhere (fun key => decide (key = Text.trim channel)) reason
      have hboth := failWhere_failWhere h (fun key => decide (key = Text.trim channel))
        (fun key => decide (key ∈ channels.map Text.trim)) reason
      simp only [List.map_cons, List.mem_cons, Bool.decide_or]
      exact (ih hfirst).trans hboth

/-- What it comes to that requests end with a failure. -/
structure Ended (c : Correlator) (isFailing : String → Bool) (reason : Error) (c' : Correlator) :
    Prop where
  /-- their entries are gone, and every other entry is as it was -/
  entries : ∀ key, c'.entries.get? key = if isFailing key.1 then none else c.entries.get? key
  /-- the failure stands once behind what waited in their slots -/
  told : ∀ key o line, c.entries.get? key = some o → isFailing key.1 = true →
    c.slots.get? o.slot = some line →
    c'.slots.get? o.slot = some ⟨line.items ++ [.error (.closing reason)]⟩
  /-- the slots of others are as they were -/
  spared : ∀ slot, ¬ c.Fails isFailing slot → c'.slots.get? slot = c.slots.get? slot
  /-- and where nobody waits any more, nothing arrives -/
  unheld : ∀ slot, c.slots.get? slot = none → c'.slots.get? slot = none

theorem ended_failWhere (h : c.Distinct) (isFailing : String → Bool) (reason : Error) :
    Ended c isFailing reason (c.failWhere isFailing reason) where
  entries := get?_entries_failWhere c isFailing reason
  told := by
    intro key o line hget hfailing hline
    rw [get?_slots_failWhere_of_failing h hget hfailing, hline]
    rfl
  spared := fun slot => (get?_slots_failWhere h isFailing reason slot).2
  unheld := by
    intro slot hnone
    obtain ⟨htold, hspared⟩ := get?_slots_failWhere h isFailing reason slot
    by_cases hfails : c.Fails isFailing slot
    · rw [htold hfails, hnone]
      rfl
    · rw [hspared hfails, hnone]

namespace Ledger

theorem Sound.trim_key {l : Ledger} (h : l.Sound) {key : String × Nat}
    (hmem : key ∈ l.correlator.entries.keys) : Text.trim key.1 = key.1 := by
  obtain ⟨⟨_, o⟩, hrow, rfl⟩ := List.mem_map.mp hmem
  obtain ⟨⟨i, -, -, rfl⟩, -⟩ := h.entry _ o ((Table.mem_rows_iff h.keys).mp hrow)
  exact Text.trim_trim i.channel

/-- Over every run of a correlator, the failure of a channel ends the requests that were entered under
it, blanks apart: every slot that is held is told once that the connection closed, in the words of the
reason, and nothing else changes.  When channels fail one after the other, in any order and with any
repetitions, and every channel with a request is among them, the same requests are outstanding and the
same waits in every slot as when all requests fail at once. -/
theorem channels_fail_once (ops : List Op) (reason : Error) :
    let c := (run {} ops).correlator
    (∀ channel, Ended c (fun key => decide (key = Text.trim channel)) reason
      (c.failChannel channel reason)) ∧
    ((Error.closing reason).kind = .connectionClosed ∧
      (Error.closing reason).message = reason.message) ∧
    (∀ key ∈ c.entries.keys, Text.trim key.1 = key.1) ∧
    ∀ channels, (∀ key ∈ c.entries.keys, ∃ channel ∈ channels, Text.trim channel = key.1) →
      Alike (c.failEach channels reason) (c.failAll reason) := by
  intro c
  have hsound : (run {} ops).Sound := sound_empty.run ops
  refine ⟨fun channel => ended_failWhere hsound.distinct _ reason, ⟨rfl, rfl⟩,
    fun key hmem => hsound.trim_key hmem, ?_⟩
  intro channels hall
  have hevery : ∀ key ∈ c.entries.keys, decide (key.1 ∈ channels.map Text.trim) = true := by
    intro key hmem
    obtain ⟨channel, hchannel, hkey⟩ := hall key hmem
    exact decide_eq_true (List.mem_map.mpr ⟨channel, hchannel, hkey⟩)
  have heach := alike_failEach hsound.distinct channels reason
  rwa [failWhere_congr (q := fun _ => true) hevery] at heach

/-- Two requests on one channel and one on another; nobody waits for the second any more. -/
def twoChannels : List Op :=
  [.register " a" 1, .register "a" 2, .register "b\t" 1, .drop 1]

/-- Of its channels one fails twice, between which the other fails, with other blanks about them. -/
theorem channels_fail_once_repeated :
    let c := (run {} twoChannels).correlator
    let reason := Error.stated .transport "reset"
    (c.pending = 3 ∧ c.queued 0 = 0 ∧ c.queued 2 = 0) ∧
    (∀ key ∈ c.entries.keys, ∃ channel ∈ ["b", "a ", "b"], Text.trim channel = key.1) ∧
    Alike (c.failEach ["b", "a ", "b"] reason) (c.failAll reason) := by
  intro c reason
  have hkeys : c.entries.keys = [("a", 1), ("a", 2), ("b", 1)] := by rfl
  have hall : ∀ key ∈ c.entries.keys, ∃ channel ∈ ["b", "a ", "b"], Text.trim channel = key.1 := by
    rw [hkeys]
    decide
  exact ⟨⟨by rfl, by rfl, by rfl⟩, hall, (channels_fail_once twoChannels reason).2.2.2 _ hall⟩

end Ledger

end MediaControl.Correlator
