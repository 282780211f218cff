import MediaControl.Proofs.Client.History

/-!
# Channels of a session

Opening a channel puts it into the table, closing it takes it out and ends its requests, and sending a
request enters it under an id that no entry of the channel has.  So every entry belongs to an open
channel at any time, and no request takes the place of another.

Main statements: `Sound.openChannel`, `Sound.closeChannel`, `Sound.invoked`, and `Sound.run` (every
history of a session is sound).
-/

set_option autoImplicit false

namespace MediaControl.Session.History

open Correlator (Issue Ledger waiting)

variable {h : History}

/-! ## Opening and closing -/

theorem Sound.openChannel (hs : h.Sound) {id : ChannelId} {number : Nat} {session : Session}
    (hopened : h.session.openChannel id = .ok (number, session)) :
    Sound { h with session } := by
  have htable := hs.table.openChannel hopened
  have hgave := fun key o ho => (hs.entry key o ho).openChannel hopened
  obtain ⟨-, -, -, rfl⟩ := openChannel_eq_ok hopened
  exact ⟨hs.ledger, htable, hgave, hs.sent_lt, hs.sent⟩

theorem Sound.opened (hs : h.Sound) {h' : History} (hopened : h.Opened h') : h'.Sound := by
  cases hopened with
  | refused => exact hs
  | opened hopened => exact hs.openChannel hopened

theorem Sound.closeChannel (hs : h.Sound) (number : Nat) :
    (h.step (.closeChannel number)).Sound := by
  obtain ⟨issued, hledger⟩ := hs.ledger
  have hset : Ledger.Settles _ ((h.step (.closeChannel number)).ledger issued) :=
    h.settles_step rfl hledger
  rcases h.session.closeChannel_cases number with hsame | ⟨c, hclosed⟩
  · rw [step, hsame]
    exact hs
  · refine ⟨⟨issued, hset.sound⟩, hclosed.tableHoldsOpen hs.table, ?_, ?_, ?_⟩
    · intro key o ho
      obtain ⟨reason, hfails⟩ := hclosed.correlator
      rw [step, hfails, Correlator.failChannel, Correlator.get?_entries_failWhere] at ho
      split at ho
      · cases ho
      · rename_i hkept
        exact hclosed.gaveOut hs.table (hs.entry key o ho) (by simpa using hkept)
    · intro w hw
      exact Nat.lt_of_lt_of_eq (hs.sent_lt w hw) hset.nextSlot.symm
    · intro w hw hheld
      exact hset.accounted w.key w.slot hheld (hs.sent w hw (hset.contains w.slot hheld))

/-! ## Sending -/

section invoke

variable {number : Nat} {c : ClientChannel} {session : Session}

theorem Sound.get?_nextId (hs : h.Sound) (hc : h.session.channel? number = some c)
    (hopen : c.isClosed = false) :
    h.session.correlator.entries.get? (Text.trim c.id.key, c.nextId) = none := by
  rw [ChannelId.trim_key]
  cases hget : h.session.correlator.entries.get? (c.id.key, c.nextId) with
  | none => rfl
  | some o => exact absurd (hs.entry _ o hget) (hs.table.not_gaveOut_nextId hc hopen)

/-- The request that is sent has its entry, and every other request keeps what it had. -/
theorem Sound.queued (hs : h.Sound) (hc : h.session.channel? number = some c) {p : Pending}
    (hopen : c.isClosed = false) (hid : p.id = c.nextId)
    (hslot : p.slot = h.session.correlator.nextSlot)
    (hsame : KeepsChannels (h.session.modify number fun c => { c with nextId := c.nextId + 1 })
      session)
    (hcorrelator : session.correlator =
      (h.session.correlator.register c.id.key c.nextId).2) :
    Sound { h with session, sent := ⟨c.id.key, p⟩ :: h.sent } := by
  obtain ⟨issued, hledger⟩ := hs.ledger
  have hfree := hs.get?_nextId hc hopen
  have hstep : ∀ issued, History.ledger ⟨session, ⟨c.id.key, p⟩ :: h.sent, h.gone⟩
      (⟨h.session.correlator.nextSlot, c.id.key, c.nextId⟩ :: issued) =
        (h.ledger issued).step (.register c.id.key c.nextId) := by
    intro issued
    rw [History.ledger, hcorrelator]
    rfl
  have hentries : session.correlator.entries =
      h.session.correlator.entries.insert (c.id.key, c.nextId)
        ⟨h.session.correlator.nextSlot, .response⟩ := by
    rw [hcorrelator, Correlator.register, ChannelId.trim_key]
  have hslots : session.correlator.slots =
      h.session.correlator.slots.insert h.session.correlator.nextSlot {} := by
    rw [hcorrelator]
    rfl
  refine ⟨⟨_, hstep issued ▸ hledger.register c.id.key c.nextId⟩, hs.table.takeId hc hsame,
    ?_, ?_, ?_⟩
  · intro key o ho
    rw [hentries, Table.get?_insert] at ho
    split at ho
    · rename_i hkey
      rw [hkey]
      exact hs.table.gaveOut_takeId hc hsame hopen
    · exact (hs.entry key o ho).takeId hc hsame
  · intro w hw
    have hnext : session.correlator.nextSlot = h.session.correlator.nextSlot + 1 := by
      rw [hcorrelator]
      rfl
    rw [hnext]
    rcases List.mem_cons.mp hw with rfl | hw
    · exact Nat.lt_succ_of_le (Nat.le_of_eq hslot)
    · exact Nat.lt_succ_of_lt (hs.sent_lt w hw)
  · intro w hw hheld
    rcases List.mem_cons.mp hw with rfl | hw
    · refine .inl ⟨⟨h.session.correlator.nextSlot, .response⟩, ?_, hslot.symm⟩
      simp only [History.ledger, hentries, Table.get?_insert, Sent.key, hid, if_true]
    · have hne : w.slot ≠ h.session.correlator.nextSlot := Nat.ne_of_lt (hs.sent_lt w hw)
      have hheld' : h.IsHeld w := by
        simpa only [IsHeld, hslots, Table.contains, Table.get?_insert, if_neg hne] using hheld
      have hacc : (h.ledger issued).Accounted w.key w.slot := hs.sent w hw hheld'
      have hregistered : ((h.ledger issued).step (.register c.id.key c.nextId)).Accounted
          w.key w.slot := hacc.register hledger hfree
      rw [← hstep] at hregistered
      exact hregistered

/-- To strike a request out again is to forget its entry and to drop its slot, which is empty. -/
theorem ledger_withdrawn {key : String} {id : Nat}
    (hcorrelator : session.correlator =
      ((h.session.correlator.register key id).2.forget key id).drop h.session.correlator.nextSlot)
    (issued : List Issue) :
    History.ledger { h with session } (⟨h.session.correlator.nextSlot, key, id⟩ :: issued) =
      (((h.ledger issued).step (.register key id)).step (.forget key id)).step
        (.drop h.session.correlator.nextSlot) := by
  have hempty : Ledger.leave h.gone h.session.correlator.nextSlot (waiting
      (h.session.correlator.slots.insert h.session.correlator.nextSlot {})
      h.session.correlator.nextSlot) = h.gone := by
    funext slot
    simp [Ledger.leave, waiting, Table.get?_insert]
  rw [History.ledger, hcorrelator]
  exact congrArg (Ledger.mk _ _) hempty.symm

/-- A request that was struck out again leaves every other request what it had. -/
theorem Sound.withdrawn (hs : h.Sound) (hc : h.session.channel? number = some c)
    (hopen : c.isClosed = false)
    (hsame : KeepsChannels (h.session.modify number fun c => { c with nextId := c.nextId + 1 })
      session)
    (hcorrelator : session.correlator =
      ((h.session.correlator.register c.id.key c.nextId).2.forget c.id.key c.nextId).drop
        h.session.correlator.nextSlot) :
    Sound { h with session } := by
  obtain ⟨issued, hledger⟩ := hs.ledger
  have hfree := hs.get?_nextId hc hopen
  have hstep := ledger_withdrawn hcorrelator
  have hregistered := hledger.register c.id.key c.nextId
  have hforgotten := hregistered.of_follows (hregistered.follows_forget c.id.key c.nextId)
  have hdropped := hforgotten.settles_drop h.session.correlator.nextSlot
  refine ⟨⟨_, hstep issued ▸ hdropped.sound⟩, hs.table.takeId hc hsame, ?_, ?_, ?_⟩
  · intro key o ho
    simp only [hcorrelator, Correlator.drop, Correlator.forget, Correlator.register,
      Table.get?_erase, Table.get?_insert] at ho
    split at ho
    · cases ho
    · exact (hs.entry key o ho).takeId hc hsame
  · intro w hw
    have hnext : session.correlator.nextSlot = h.session.correlator.nextSlot + 1 := by
      rw [hcorrelator]
      rfl
    rw [hnext]
    exact Nat.lt_succ_of_lt (hs.sent_lt w hw)
  · intro w hw hheld
    have hne : w.slot ≠ h.session.correlator.nextSlot := Nat.ne_of_lt (hs.sent_lt w hw)
    have hheld' : h.IsHeld w := by
      simpa only [IsHeld, hcorrelator, Correlator.drop, Correlator.forget, Correlator.register,
        Table.contains, Table.get?_erase, Table.get?_insert, if_neg hne] using hheld
    have hacc : (h.ledger issued).Accounted w.key w.slot := hs.sent w hw hheld'
    have hstruck := (hacc.forget_register hledger hfree).drop h.session.correlator.nextSlot
    rw [← hstep] at hstruck
    exact hstruck

end invoke

theorem Sound.invoked (hs : h.Sound) {number : Nat} {h' : History} (hinvoked : h.Invoked number h') :
    h'.Sound := by
  cases hinvoked with
  | absent hc => exact hs
  | refused hc hclosed => exact hs
  | queued hc hopen hconnection hid hslot hsame hcorrelator =>
      exact hs.queued hc hopen hid hslot hsame hcorrelator
  | withdrawn hc hopen hsame hcorrelator => exact hs.withdrawn hc hopen hsame hcorrelator

theorem Sound.step (hs : h.Sound) (op : Op) : (h.step op).Sound := by
  cases op with
  | openChannel id => exact hs.opened (h.openChannel_cases id)
  | openNamed text => exact hs.opened (h.openNamed_cases text)
  | invoke number r => exact hs.invoked (h.invoke_cases number r)
  | closeChannel number => exact hs.closeChannel number
  | _ => exact hs.step_of_untouched rfl

theorem Sound.run (hs : h.Sound) (ops : List Op) : (h.run ops).Sound := by
  induction ops generalizing h with
  | nil => exact hs
  | cons op ops ih => exact ih (hs.step op)

end MediaControl.Session.History
