import MediaControl.Proofs.Client.Channels

/-!
# The end of a session (SPEC_FULL §4.3, §4.4)

When the connection stops, whoever still waits is told so, once; whoever was done waiting is told
nothing more; and nothing that happens afterwards changes that.

Main statements: `received_stop` (who is told), `IsOver.step` (nobody waits again) and
`no_caller_stranded`.
-/

set_option autoImplicit false

namespace MediaControl.Session.History

open Correlator (Issue Ledger Settled)

variable {h : History}

/-- The connection is closed, and no request is outstanding. -/
structure IsOver (h : History) : Prop where
  closed : h.session.connection.closed = true
  entries : ∀ key, h.session.correlator.entries.get? key = none

theorem IsOver.pending (hover : h.IsOver) : h.session.correlator.pending = 0 :=
  Table.size_eq_zero hover.entries

/-- Every entry belongs to an open channel, which ends with the connection. -/
theorem Sound.isOver_stop (hs : h.Sound) (reason : Error) : (h.step (.stop reason)).IsOver where
  closed := by
    have hclosed := (keepsChannels_stop { h.session with connection := h.session.connection.close }
      reason).closed
    exact hclosed rfl
  entries := by
    intro key
    show ((h.step (.stop reason)).ledger []).correlator.entries.get? key = none
    rw [ledger_stop]
    cases hget : ((h.ledger []).failChannels h.session.table.keys reason).correlator.entries.get?
        key with
    | none => rfl
    | some o =>
        obtain ⟨ho, hothers⟩ := Ledger.get?_entries_failChannels hget
        have hgave := hs.entry key o ho
        exact absurd (hgave.trim_key hs.table).symm (hothers key.1 hgave.mem_keys)

/-- When the connection stops, a request that is not over is given one failure, and one that is over
nothing. -/
theorem Sound.received_stop (hs : h.Sound) (reason : Error) {w : Sent} (hw : w ∈ h.sent)
    (hheld : h.IsHeld w) :
    (Settled (h.received w.slot) →
      (h.step (.stop reason)).received w.slot = h.received w.slot) ∧
    (¬ Settled (h.received w.slot) →
      (h.step (.stop reason)).received w.slot =
        h.received w.slot ++ [.error (.closing reason)]) := by
  obtain ⟨issued, hledger⟩ := hs.ledger
  have hstop : (h.step (.stop reason)).received w.slot =
      ((h.ledger issued).failChannels h.session.table.keys reason).received w.slot := by
    rw [← ledger_stop]
    rfl
  rw [hstop]
  constructor
  · intro hsettled
    exact hledger.failChannels_of_settled _ reason hsettled
  · intro hwaits
    have hentry : (h.ledger issued).HasEntry w.key w.slot :=
      (hs.sent w hw hheld).resolve_right hwaits
    refine hentry.received_failChannels hledger hheld reason ?_
    obtain ⟨o, ho, -⟩ := hentry
    have hgave := hs.entry w.key o ho
    exact ⟨w.key.1, hgave.mem_keys, (hgave.trim_key hs.table).symm⟩

theorem Opened.closed {h' : History} (hopened : h.Opened h')
    (hclosed : h.session.connection.closed = true) : h'.session.connection.closed = true := by
  cases hopened with
  | refused => exact hclosed
  | opened hopened =>
      rw [(openChannel_eq_ok hopened).1] at hclosed
      cases hclosed

theorem Invoked.closed {number : Nat} {h' : History} (hinvoked : h.Invoked number h')
    (hclosed : h.session.connection.closed = true) : h'.session.connection.closed = true := by
  cases hinvoked with
  | absent hc => exact hclosed
  | refused hc hisClosed => exact hclosed
  | queued hc hopen hconnection hid hslot hsame hcorrelator => exact hsame.closed hclosed
  | withdrawn hc hopen hsame hcorrelator => exact hsame.closed hclosed

/-- A connection that is closed stays closed. -/
theorem closed_step (hclosed : h.session.connection.closed = true) (op : Op) :
    (h.step op).session.connection.closed = true := by
  cases op with
  | openChannel id => exact (h.openChannel_cases id).closed hclosed
  | openNamed text => exact (h.openNamed_cases text).closed hclosed
  | invoke number r => exact (h.invoke_cases number r).closed hclosed
  | closeChannel number =>
      rcases h.session.closeChannel_cases number with hsame | ⟨c, hby⟩
      · rw [step, hsame]
        exact hclosed
      · rw [step, hby.connection]
        exact hclosed
  | _ => exact (keepsChannels_step h rfl).1.closed hclosed

/-- After the end nothing is sent any more. -/
theorem IsOver.invoked (hover : h.IsOver) (hs : h.Sound) {number : Nat} {h' : History}
    (hinvoked : h.Invoked number h') :
    (∀ key, h'.session.correlator.entries.get? key = none) ∧
      ∀ slot, h'.received slot = h.received slot := by
  cases hinvoked with
  | absent hc => exact ⟨hover.entries, fun _ => rfl⟩
  | refused hc hclosed => exact ⟨hover.entries, fun _ => rfl⟩
  | queued hc hopen hconnection hid hslot hsame hcorrelator =>
      rw [hover.closed] at hconnection
      cases hconnection
  | @withdrawn c session hc hopen hsame hcorrelator =>
      obtain ⟨issued, hledger⟩ := hs.ledger
      constructor
      · intro key
        simp only [hcorrelator, Correlator.drop, Correlator.forget, Correlator.register,
          Table.get?_erase, Table.get?_insert]
        split
        · rfl
        · exact hover.entries key
      · intro slot
        have hreceived := Ledger.received_drop (((h.ledger issued).step
          (.register c.id.key c.nextId)).step (.forget c.id.key c.nextId))
          h.session.correlator.nextSlot slot
        rw [← ledger_withdrawn hcorrelator] at hreceived
        exact hreceived.trans (hledger.received_register c.id.key c.nextId slot)

/-- Once it is over, it stays over, and no slot is given anything any more. -/
theorem IsOver.step (hover : h.IsOver) (hs : h.Sound) (op : Op) :
    (h.step op).IsOver ∧ ∀ slot, (h.step op).received slot = h.received slot := by
  have hquiet : op.isInvoke = false → (∀ key,
      (h.step op).session.correlator.entries.get? key = none) ∧
      ∀ slot, (h.step op).received slot = h.received slot := by
    intro hop
    obtain ⟨issued, hledger⟩ := hs.ledger
    have hset := h.settles_step hop hledger
    refine ⟨?_, hset.received hover.entries⟩
    intro key
    cases hget : (h.step op).session.correlator.entries.get? key with
    | none => rfl
    | some o =>
        obtain ⟨o₀, ho₀⟩ := hset.entry key o hget
        cases (hover.entries key).symm.trans ho₀
  cases op with
  | invoke number r =>
      obtain ⟨hentries, hreceived⟩ := hover.invoked hs (h.invoke_cases number r)
      exact ⟨⟨closed_step hover.closed _, hentries⟩, hreceived⟩
  | _ => exact ⟨⟨closed_step hover.closed _, (hquiet rfl).1⟩, (hquiet rfl).2⟩

theorem IsOver.run (hover : h.IsOver) (hs : h.Sound) (ops : List Op) :
    (h.run ops).IsOver ∧ ∀ slot, (h.run ops).received slot = h.received slot := by
  induction ops generalizing h with
  | nil => exact ⟨hover, fun _ => rfl⟩
  | cons op ops ih =>
      obtain ⟨hnext, hreceived⟩ := hover.step hs op
      obtain ⟨hlast, hafter⟩ := ih hnext (hs.step op)
      exact ⟨hlast, fun slot => (hafter slot).trans (hreceived slot)⟩

/-- No caller is stranded: over every run of a session, every entry of the correlator belongs to a
channel of the table, and every request that somebody still waits for has its entry or is over.  When
the connection stops, and ever after, no request is outstanding, and of the requests that somebody
waited for then, each that was not over has been given exactly one failure, which says that the
connection closed, and each that was over has been given nothing more. -/
theorem no_caller_stranded (connection : Connection) (limit? : Option Nat) (ops : List Op) :
    let h := run { session := { connection, limit? } } ops
    (∀ key o, h.session.correlator.entries.get? key = some o →
      (ChannelTable.lookup h.session.table key.1).isSome) ∧
    (∀ w ∈ h.sent, h.IsHeld w →
      (∃ o, h.session.correlator.entries.get? w.key = some o ∧ o.slot = w.slot) ∨
        Settled (h.received w.slot)) ∧
    ∀ (reason : Error) (later : List Op),
      let h' := (h.step (.stop reason)).run later
      h'.session.correlator.pending = 0 ∧
      (Error.closing reason).kind = .connectionClosed ∧
      ∀ w ∈ h.sent, h.IsHeld w →
        (¬ Settled (h.received w.slot) →
          h'.received w.slot = h.received w.slot ++ [.error (.closing reason)]) ∧
        (Settled (h.received w.slot) → h'.received w.slot = h.received w.slot) := by
  intro h
  have hs : h.Sound := (sound_start connection limit?).run ops
  refine ⟨?_, hs.sent, ?_⟩
  · intro key o ho
    have hgave := hs.entry key o ho
    rw [ChannelTable.lookup, hgave.trim_key hs.table]
    obtain ⟨number, -, hget, -, -⟩ := hgave
    rw [hget]
    rfl
  · intro reason later h'
    obtain ⟨hover, hreceived⟩ := (hs.isOver_stop reason).run (hs.step (.stop reason)) later
    refine ⟨hover.pending, rfl, ?_⟩
    intro w hw hheld
    obtain ⟨hdone, hwaits⟩ := hs.received_stop reason hw hheld
    constructor
    · intro hopen
      exact (hreceived w.slot).trans (hwaits hopen)
    · intro hsettled
      exact (hreceived w.slot).trans (hdone hsettled)

end MediaControl.Session.History
