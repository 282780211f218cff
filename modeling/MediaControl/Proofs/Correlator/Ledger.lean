import MediaControl.Proofs.Correlator.Handling

/-!
# Runs of a correlator

A ledger follows a correlator through its operations and keeps what the correlator itself forgets:
which slots were given out, for which request, and what has left them.

Main statements: `Sound.of_follows` (the entries go on saying how far each slot has come) and
`Follows.received_of_settled` (what is over stays over).
-/

set_option autoImplicit false

namespace MediaControl.Correlator

/-- What can be done to a correlator. -/
inductive Op where
  | register (channel : String) (id : Nat)
  | forget (channel : String) (id : Nat)
  | handle (m : Message)
  | take (slot : Nat)
  | drop (slot : Nat)
  | failChannel (channel : String) (reason : Error)
  | failAll (reason : Error)

/-- A slot that was given out, and the request it was given out for. -/
structure Issue where
  slot : Nat
  channel : String
  id : Nat

/-- The key of the request. -/
def Issue.key (i : Issue) : String × Nat := (Text.trim i.channel, i.id)

/-- The message names the channel of the request and its id. -/
def Issue.Concerns (i : Issue) (m : Message) : Prop :=
  m.id = i.id ∧ ∃ channel, m.channelId = .ok channel ∧ channel.key = Text.trim i.channel

/-- A correlator and its past. -/
structure Ledger where
  correlator : Correlator := {}
  /-- the slots that were given out, last one first -/
  issued : List Issue := []
  /-- what was taken out of each slot, and what was in it when it was dropped -/
  gone : Nat → List (Except Error Message) := fun _ => []

namespace Ledger

/-- Everything that was ever put into the slot, oldest first. -/
def received (l : Ledger) (slot : Nat) : List (Except Error Message) :=
  l.gone slot ++ waiting l.correlator.slots slot

/-- More has left the slot. -/
def leave (gone : Nat → List (Except Error Message)) (slot : Nat)
    (items : List (Except Error Message)) : Nat → List (Except Error Message) :=
  fun other => if other = slot then gone other ++ items else gone other

/-- One operation. -/
def step (l : Ledger) : Op → Ledger
  | .register channel id =>
    let (slot, correlator) := l.correlator.register channel id
    { l with correlator, issued := ⟨slot, channel, id⟩ :: l.issued }
  | .forget channel id => { l with correlator := l.correlator.forget channel id }
  | .handle m => { l with correlator := (l.correlator.handle m).1 }
  | .take slot =>
    match l.correlator.take? slot with
    | some (item, correlator) => { l with correlator, gone := leave l.gone slot [item] }
    | none => l
  | .drop slot =>
    { l with
      correlator := l.correlator.drop slot
      gone := leave l.gone slot (waiting l.correlator.slots slot) }
  | .failChannel channel reason =>
    { l with correlator := l.correlator.failChannel channel reason }
  | .failAll reason => { l with correlator := l.correlator.failAll reason }

/-- Operations, first to last. -/
def run (l : Ledger) (ops : List Op) : Ledger := ops.foldl step l

/-- The entries say how far each slot has come: the slot of an entry was given out for its request
and has been given what the entry says, and whatever else a slot was given came for its request, in
an order that makes sense. -/
structure Sound (l : Ledger) : Prop where
  keys : l.correlator.entries.keys.Nodup
  nodup : (l.issued.map Issue.slot).Nodup
  slot_lt : ∀ i ∈ l.issued, i.slot < l.correlator.nextSlot
  untouched : ∀ slot, l.correlator.nextSlot ≤ slot →
    l.gone slot = [] ∧ l.correlator.slots.get? slot = none
  entry : ∀ key o, l.correlator.entries.get? key = some o →
    (∃ i ∈ l.issued, i.slot = o.slot ∧ i.key = key) ∧ Progress o.awaits (l.received o.slot)
  isLegal : ∀ i ∈ l.issued, IsLegal (l.received i.slot)
  concerns : ∀ i ∈ l.issued, ∀ m, .ok m ∈ l.received i.slot → i.Concerns m

variable {l : Ledger}

theorem Sound.issue_eq (h : l.Sound) {i j : Issue} (hi : i ∈ l.issued) (hj : j ∈ l.issued)
    (hslot : i.slot = j.slot) : i = j :=
  List.inj_on_of_nodup_map h.nodup hi hj hslot

theorem Sound.distinct (h : l.Sound) : l.correlator.Distinct where
  keys := h.keys
  slots := by
    intro key other o o' hkey hother hslot
    obtain ⟨⟨i, hi, hio, hikey⟩, -⟩ := h.entry key o hkey
    obtain ⟨⟨j, hj, hjo, hjkey⟩, -⟩ := h.entry other o' hother
    have hij : i = j := h.issue_eq hi hj (hio.trans (hslot.trans hjo.symm))
    rw [← hikey, ← hjkey, hij]

theorem sound_empty : Sound {} where
  keys := List.nodup_nil
  nodup := List.nodup_nil
  slot_lt := by
    intro i hi
    cases hi
  untouched := fun _ _ => ⟨rfl, rfl⟩
  entry := by
    intro key o ho
    cases ho
  isLegal := by
    intro i hi
    cases hi
  concerns := by
    intro i hi
    cases hi

/-! ## What a slot is given by one operation -/

/-- What an operation did to a slot: it put nothing there, or one item for the entry of the slot. -/
inductive Given (l l' : Ledger) (slot : Nat) : Prop
  | nothing (h : l'.received slot = l.received slot)
  | item {key : String × Nat} {o : Outstanding} (item : Except Error Message)
      (hentry : l.correlator.entries.get? key = some o) (hslot : o.slot = slot)
      (h : l'.received slot = l.received slot ++ [item]) (hlegal : IsLegal (l'.received slot))
      (hconcerns : ∀ m, item = .ok m → ∃ channel, m.channelId = .ok channel ∧
        (channel.key, m.id) = key)

/-- What an operation does that gives out no slot: it puts into slots only what their entries wait for,
and leaves no entry behind its slot. -/
structure Follows (l l' : Ledger) : Prop where
  issued : l'.issued = l.issued
  nextSlot : l'.correlator.nextSlot = l.correlator.nextSlot
  keys : l'.correlator.entries.keys.Nodup
  unheld : ∀ slot, l.correlator.slots.get? slot = none →
    l'.gone slot = l.gone slot ∧ l'.correlator.slots.get? slot = none
  entry : ∀ key o, l'.correlator.entries.get? key = some o →
    (∃ o₀, l.correlator.entries.get? key = some o₀ ∧ o₀.slot = o.slot) ∧
      Progress o.awaits (l'.received o.slot)
  given : ∀ slot, Given l l' slot

theorem Sound.of_follows {l' : Ledger} (h : l.Sound) (hf : Follows l l') : l'.Sound where
  keys := hf.keys
  nodup := by
    rw [hf.issued]
    exact h.nodup
  slot_lt := by
    rw [hf.issued, hf.nextSlot]
    exact h.slot_lt
  untouched := by
    intro slot hslot
    rw [hf.nextSlot] at hslot
    obtain ⟨hgone, hnone⟩ := h.untouched slot hslot
    obtain ⟨hgone', hnone'⟩ := hf.unheld slot hnone
    exact ⟨hgone'.trans hgone, hnone'⟩
  entry := by
    intro key o ho
    obtain ⟨⟨o₀, ho₀, hslot⟩, hprogress⟩ := hf.entry key o ho
    obtain ⟨⟨i, hi, hio, hikey⟩, -⟩ := h.entry key o₀ ho₀
    exact ⟨⟨i, hf.issued ▸ hi, hio.trans hslot, hikey⟩, hprogress⟩
  isLegal := by
    intro i hi
    rw [hf.issued] at hi
    cases hf.given i.slot with
    | nothing hsame =>
        rw [hsame]
        exact h.isLegal i hi
    | item item _ _ _ hlegal _ => exact hlegal
  concerns := by
    intro i hi m hm
    rw [hf.issued] at hi
    cases hf.given i.slot with
    | nothing hsame => exact h.concerns i hi m (hsame ▸ hm)
    | @item key o item hget hslot hmore hlegal hconcerns =>
        rw [hmore, List.mem_append, List.mem_singleton] at hm
        rcases hm with hm | hm
        · exact h.concerns i hi m hm
        · obtain ⟨⟨j, hj, hjo, hjkey⟩, -⟩ := h.entry key o hget
          obtain rfl : j = i := h.issue_eq hj hi (hjo.trans hslot)
          obtain ⟨channel, hchannel, hkey⟩ := hconcerns m hm.symm
          obtain ⟨hchannelKey, hid⟩ := Prod.mk.inj (hkey.trans hjkey.symm)
          exact ⟨hid, channel, hchannel, hchannelKey⟩

/-- An operation that only strikes out entries and moves what has come gives out nothing. -/
theorem Sound.follows_of_received_eq {l' : Ledger} (h : l.Sound) (hissued : l'.issued = l.issued)
    (hnext : l'.correlator.nextSlot = l.correlator.nextSlot)
    (hkeys : l'.correlator.entries.keys.Nodup)
    (hunheld : ∀ slot, l.correlator.slots.get? slot = none →
      l'.gone slot = l.gone slot ∧ l'.correlator.slots.get? slot = none)
    (hentry : ∀ key o, l'.correlator.entries.get? key = some o →
      l.correlator.entries.get? key = some o)
    (hreceived : ∀ slot, l'.received slot = l.received slot) : Follows l l' where
  issued := hissued
  nextSlot := hnext
  keys := hkeys
  unheld := hunheld
  entry := by
    intro key o ho
    have hold := hentry key o ho
    rw [hreceived]
    exact ⟨⟨o, hold, rfl⟩, (h.entry key o hold).2⟩
  given := fun slot => .nothing (hreceived slot)

/-- Nothing more comes for a request that is over. -/
theorem Follows.received_of_settled {l' : Ledger} (hf : Follows l l') (h : l.Sound) {slot : Nat}
    (hsettled : Settled (l.received slot)) : l'.received slot = l.received slot := by
  cases hf.given slot with
  | nothing hsame => exact hsame
  | @item key o item hget hslot _ _ _ =>
      have hprogress := (h.entry key o hget).2
      rw [hslot] at hprogress
      exact absurd hsettled hprogress.not_settled

end Ledger

end MediaControl.Correlator
