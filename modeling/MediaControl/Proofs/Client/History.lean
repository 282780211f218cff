import MediaControl.Proofs.Client.OpenChannels
import MediaControl.Proofs.Correlator.Accounted

/-!
# Histories of a session

A history follows a session through its operations and keeps what the session itself forgets: the
requests that were sent, and what has left their slots.

Main statements: `openChannel_cases` and `invoke_cases` (what comes of opening and of sending),
`settles_step` (sending apart, no operation loses a request that somebody waits for) and
`Sound.step_of_untouched`.
-/

set_option autoImplicit false

namespace MediaControl

open Correlator (Issue Ledger waiting)

namespace Session

/-- What can happen to a session. -/
inductive Op where
  | openChannel (id : ChannelId)
  | openNamed (text : String)
  | invoke (number : Nat) (r : Request)
  | receive (m : Message)
  | take (p : Pending)
  | letGo (p : Pending)
  | closeChannel (number : Nat)
  | listen (number : Nat) (listener : String)
  | unlisten (number : Nat)
  | takeEvent (number : Nat)
  | abandonChannel (number : Nat)
  /-- the connection reads, writes or closes -/
  | transport (connection : Connection)
  | stop (reason : Error)
  | failRest

/-- The operation sends a request. -/
def Op.isInvoke : Op → Bool
  | .invoke .. => true
  | _ => false

/-- The operation opens or closes a channel or sends on one. -/
def Op.touchesChannels : Op → Bool
  | .openChannel _ | .openNamed _ | .invoke .. | .closeChannel _ => true
  | _ => false

/-- A request that was sent, and the key of its channel. -/
structure Sent where
  channel : String
  pending : Pending

namespace Sent

/-- The key of the request. -/
def key (w : Sent) : String × Nat := (w.channel, w.pending.id)

/-- The slot of the request. -/
def slot (w : Sent) : Nat := w.pending.slot

end Sent

/-- The key of the channel with the number. -/
def keyOf (s : Session) (number : Nat) : String :=
  ((s.channel? number).map fun c => c.id.key).getD ""

/-- A session and its past. -/
structure History where
  session : Session
  /-- the requests that were sent, last one first -/
  sent : List Sent := []
  /-- what was taken out of each slot, and what was in it when it was let go -/
  gone : Nat → List (Except Error Message) := fun _ => []

namespace History

/-- The ledger of the session's correlator, if these slots were given out. -/
def ledger (h : History) (issued : List Issue) : Ledger := ⟨h.session.correlator, issued, h.gone⟩

/-- Everything that was ever put into the slot, oldest first. -/
def received (h : History) (slot : Nat) : List (Except Error Message) := (h.ledger []).received slot

/-- Somebody still waits for the request. -/
def IsHeld (h : History) (w : Sent) : Prop := h.session.correlator.slots.contains w.slot = true

/-- One operation. -/
def step (h : History) : Op → History
  | .openChannel id =>
    match h.session.openChannel id with
    | .ok (_, session) => { h with session }
    | .error _ => h
  | .openNamed text =>
    match h.session.openNamed text with
    | .ok (_, session) => { h with session }
    | .error _ => h
  | .invoke number r =>
    match h.session.invoke? number r with
    | some (.ok p, session) =>
      { h with session, sent := ⟨h.session.keyOf number, p⟩ :: h.sent }
    | some (.error _, session) => { h with session }
    | none => h
  | .receive m => { h with session := (h.session.receive m).1 }
  | .take p =>
    match h.session.correlator.take? p.slot with
    | some (item, correlator) =>
      { h with session := { h.session with correlator }, gone := Ledger.leave h.gone p.slot [item] }
    | none => h
  | .letGo p =>
    { h with
      session := h.session.letGo p
      gone := Ledger.leave h.gone p.slot (waiting h.session.correlator.slots p.slot) }
  | .closeChannel number => { h with session := h.session.closeChannel number }
  | .listen number listener => { h with session := (h.session.listen number listener).1 }
  | .unlisten number => { h with session := h.session.unlisten number }
  | .takeEvent number =>
    match h.session.takeEvent? number with
    | some (_, session) => { h with session }
    | none => h
  | .abandonChannel number => { h with session := h.session.abandonChannel number }
  | .transport connection =>
    let closed := h.session.connection.closed || connection.closed
    { h with session := { h.session with connection := { connection with closed } } }
  | .stop reason =>
    { h with session := { h.session with connection := h.session.connection.close }.stop reason }
  | .failRest =>
    if h.session.connection.closed then { h with session := h.session.failRest } else h

/-- Operations, first to last. -/
def run (h : History) (ops : List Op) : History := ops.foldl step h

/-- What comes of opening a channel: nothing, or the session has it. -/
inductive Opened (h : History) : History → Prop
  | refused : Opened h h
  | opened {id : ChannelId} {number : Nat} {session : Session}
      (hopened : h.session.openChannel id = .ok (number, session)) : Opened h { h with session }

theorem openChannel_cases (h : History) (id : ChannelId) : h.Opened (h.step (.openChannel id)) := by
  rw [step]
  cases hopened : h.session.openChannel id with
  | error e => exact .refused
  | ok opened => exact .opened hopened

theorem openNamed_cases (h : History) (text : String) : h.Opened (h.step (.openNamed text)) := by
  rw [step]
  cases hnamed : h.session.openNamed text with
  | error e => exact .refused
  | ok opened =>
      obtain ⟨id, hopened⟩ := openNamed_eq_ok hnamed
      exact .opened hopened

/-- What comes of sending a request: there is no such channel, or it is closed, and nothing happens; or
the request is queued, and is among those that were sent; or it is struck out again. -/
inductive Invoked (h : History) (number : Nat) : History → Prop
  | absent (hc : h.session.channel? number = none) : Invoked h number h
  | refused {c : ClientChannel} (hc : h.session.channel? number = some c)
      (hclosed : c.isClosed = true) : Invoked h number h
  | queued {c : ClientChannel} {p : Pending} {session : Session}
      (hc : h.session.channel? number = some c) (hopen : c.isClosed = false)
      (hconnection : h.session.connection.closed = false) (hid : p.id = c.nextId)
      (hslot : p.slot = h.session.correlator.nextSlot)
      (hsame : KeepsChannels (h.session.modify number fun c => { c with nextId := c.nextId + 1 })
        session)
      (hcorrelator : session.correlator = (h.session.correlator.register c.id.key c.nextId).2) :
      Invoked h number { h with session, sent := ⟨c.id.key, p⟩ :: h.sent }
  | withdrawn {c : ClientChannel} {session : Session} (hc : h.session.channel? number = some c)
      (hopen : c.isClosed = false)
      (hsame : KeepsChannels (h.session.modify number fun c => { c with nextId := c.nextId + 1 })
        session)
      (hcorrelator : session.correlator =
        ((h.session.correlator.register c.id.key c.nextId).2.forget c.id.key c.nextId).drop
          h.session.correlator.nextSlot) :
      Invoked h number { h with session }

theorem invoke_cases (h : History) (number : Nat) (r : Request) :
    h.Invoked number (h.step (.invoke number r)) := by
  rw [step, invoke?]
  cases hc : h.session.channel? number with
  | none => exact .absent hc
  | some c =>
      have hkey : h.session.keyOf number = c.id.key := by
        rw [keyOf, hc]
        rfl
      have hcases := sendOn_cases hc r
      simp only [Option.map_some]
      generalize h.session.sendOn number c.id r = result at hcases
      cases hcases with
      | refused e hclosed => exact .refused hc hclosed
      | queued p session hopen hconnection hid hslot hsame hcorrelator =>
          simp only [hkey]
          exact .queued hc hopen hconnection hid hslot hsame hcorrelator
      | withdrawn e session hopen hsame hcorrelator => exact .withdrawn hc hopen hsame hcorrelator

/-- The table holds the open channels, every entry of the correlator belongs to one of them and to an
id that was given out there, and every request that somebody still waits for is accounted for. -/
structure Sound (h : History) : Prop where
  ledger : ∃ issued, (h.ledger issued).Sound
  table : h.session.TableHoldsOpen
  entry : ∀ key o, h.session.correlator.entries.get? key = some o → h.session.GaveOut key
  sent_lt : ∀ w ∈ h.sent, w.slot < h.session.correlator.nextSlot
  sent : ∀ w ∈ h.sent, h.IsHeld w → (h.ledger []).Accounted w.key w.slot

variable {h h' : History}

theorem sound_start (connection : Connection) (limit? : Option Nat) :
    Sound { session := { connection, limit? } } where
  ledger := ⟨[], Ledger.sound_empty⟩
  table := by
    intro key number
    constructor
    · intro hget
      cases hget
    · rintro ⟨c, hc, -⟩
      cases hc
  entry := by
    intro key o ho
    cases ho
  sent_lt := by
    intro w hw
    cases hw
  sent := by
    intro w hw
    cases hw

/-- An operation that leaves the channels alone and loses nobody keeps a history sound. -/
theorem Sound.of_settles (hs : h.Sound) (hsame : KeepsChannels h.session h'.session)
    (hsent : h'.sent = h.sent)
    (hsettles : ∀ issued, (h.ledger issued).Sound →
      Ledger.Settles (h.ledger issued) (h'.ledger issued)) : h'.Sound := by
  obtain ⟨issued, hledger⟩ := hs.ledger
  have hset := hsettles issued hledger
  refine ⟨⟨issued, hset.sound⟩, hsame.tableHoldsOpen hs.table, ?_, ?_, ?_⟩
  · intro key o ho
    obtain ⟨o₀, ho₀⟩ := hset.entry key o ho
    exact hsame.gaveOut (hs.entry key o₀ ho₀)
  · intro w hw
    rw [hsent] at hw
    exact Nat.lt_of_lt_of_eq (hs.sent_lt w hw) hset.nextSlot.symm
  · intro w hw hheld
    rw [hsent] at hw
    exact hset.accounted w.key w.slot hheld (hs.sent w hw (hset.contains w.slot hheld))

/-! ## Operations that leave the channels alone -/

/-- When a session stops, the channels of its table end one after the other. -/
theorem ledger_session_stop (s : Session) (reason : Error) (issued : List Issue)
    (gone : Nat → List (Except Error Message)) :
    Ledger.mk (s.stop reason).correlator issued gone =
      (Ledger.mk s.correlator issued gone).failChannels s.table.keys reason := by
  have hrows : ∀ (rows : List (String × Nat)) (s : Session),
      Ledger.mk (rows.foldl (fun s row => s.endChannel row.2 row.1 reason) s).correlator issued gone =
        (Ledger.mk s.correlator issued gone).failChannels (rows.map Prod.fst) reason := by
    intro rows
    induction rows with
    | nil =>
        intro s
        rfl
    | cons row rows ih =>
        intro s
        exact ih (s.endChannel row.2 row.1 reason)
  exact hrows s.table.rows s

theorem ledger_stop (h : History) (reason : Error) (issued : List Issue) :
    (h.step (.stop reason)).ledger issued =
      (h.ledger issued).failChannels h.session.table.keys reason :=
  ledger_session_stop { h.session with connection := h.session.connection.close } reason issued h.gone

theorem settles_take (h : History) (p : Pending) {issued : List Issue}
    (hledger : (h.ledger issued).Sound) :
    Ledger.Settles (h.ledger issued) ((h.step (.take p)).ledger issued) := by
  have hset := hledger.settles_take p.slot
  have hstep : (h.step (.take p)).ledger issued = (h.ledger issued).step (.take p.slot) := by
    simp only [step, Ledger.step, ledger]
    cases h.session.correlator.take? p.slot with
    | none => rfl
    | some taken => rfl
  rw [hstep]
  exact hset

theorem Opened.settles (hopened : h.Opened h') {issued : List Issue}
    (hledger : (h.ledger issued).Sound) :
    Ledger.Settles (h.ledger issued) (h'.ledger issued) := by
  cases hopened with
  | refused => exact .refl hledger
  | opened hopened =>
      obtain ⟨-, -, -, rfl⟩ := openChannel_eq_ok hopened
      exact .refl hledger

/-- Sending a request apart, no operation loses a request that somebody waits for. -/
theorem settles_step (h : History) {op : Op} (hop : op.isInvoke = false) {issued : List Issue}
    (hledger : (h.ledger issued).Sound) :
    Ledger.Settles (h.ledger issued) ((h.step op).ledger issued) := by
  cases op with
  | openChannel id => exact (h.openChannel_cases id).settles hledger
  | openNamed text => exact (h.openNamed_cases text).settles hledger
  | invoke number r => cases hop
  | receive m =>
      have hcorrelator := (h.session.receive_cases m).2
      simp only [step, ledger]
      rcases hcorrelator with hsame | hhandled
      · rw [hsame]
        exact .refl hledger
      · rw [hhandled]
        exact hledger.settles_handle m
  | take p => exact h.settles_take p hledger
  | letGo p => exact hledger.settles_drop p.slot
  | closeChannel number =>
      simp only [step, ledger]
      rcases h.session.closeChannel_cases number with hsame | ⟨c, hclosed⟩
      · rw [hsame]
        exact .refl hledger
      · obtain ⟨reason, hfails⟩ := hclosed.correlator
        rw [hfails]
        exact hledger.settles_failWhere _ reason
  | listen number listener => exact .refl hledger
  | unlisten number => exact .refl hledger
  | takeEvent number =>
      rw [step]
      cases htaken : h.session.takeEvent? number with
      | none => exact .refl hledger
      | some taken =>
          have hsame := (keepsChannels_takeEvent htaken).2
          simp only [ledger, hsame]
          exact .refl hledger
  | abandonChannel number => exact .refl hledger
  | transport connection => exact .refl hledger
  | stop reason =>
      rw [ledger_stop]
      exact hledger.settles_failChannels _ reason
  | failRest =>
      rw [step]
      split
      · exact hledger.settles_failWhere (fun _ => true)
          (.stated .connectionClosed "connection closed")
      · exact .refl hledger

/-- Opening, closing and sending apart, operations leave the channels alone. -/
theorem keepsChannels_step (h : History) {op : Op} (hop : op.touchesChannels = false) :
    KeepsChannels h.session (h.step op).session ∧ (h.step op).sent = h.sent := by
  cases op with
  | openChannel id => cases hop
  | openNamed text => cases hop
  | invoke number r => cases hop
  | closeChannel number => cases hop
  | receive m => exact ⟨(h.session.receive_cases m).1, rfl⟩
  | take p =>
      rw [step]
      split
      · exact ⟨h.session.keepsChannels_correlator _, rfl⟩
      · exact ⟨.refl _, rfl⟩
  | letGo p => exact ⟨h.session.keepsChannels_correlator _, rfl⟩
  | listen number listener => exact ⟨h.session.keepsChannels_listen number listener, rfl⟩
  | unlisten number => exact ⟨h.session.keepsChannels_unlisten number, rfl⟩
  | takeEvent number =>
      rw [step]
      cases htaken : h.session.takeEvent? number with
      | none => exact ⟨.refl _, rfl⟩
      | some taken => exact ⟨(keepsChannels_takeEvent htaken).1, rfl⟩
  | abandonChannel number => exact ⟨h.session.keepsChannels_abandonChannel number, rfl⟩
  | transport connection =>
      refine ⟨⟨rfl, fun _ => rfl, ?_⟩, rfl⟩
      intro hclosed
      simp [step, hclosed]
  | stop reason =>
      refine ⟨KeepsChannels.trans ?_ (keepsChannels_stop _ reason), rfl⟩
      exact ⟨rfl, fun _ => rfl, fun _ => rfl⟩
  | failRest =>
      rw [step]
      split
      · exact ⟨h.session.keepsChannels_correlator _, rfl⟩
      · exact ⟨.refl _, rfl⟩

theorem Opened.sent_eq (hopened : h.Opened h') : h'.sent = h.sent := by
  cases hopened with
  | refused => rfl
  | opened hopened => rfl

theorem sent_step (h : History) {op : Op} (hop : op.isInvoke = false) : (h.step op).sent = h.sent := by
  cases op with
  | invoke number r => cases hop
  | openChannel id => exact (h.openChannel_cases id).sent_eq
  | openNamed text => exact (h.openNamed_cases text).sent_eq
  | closeChannel number => rfl
  | _ => exact (h.keepsChannels_step rfl).2

theorem Sound.step_of_untouched (hs : h.Sound) {op : Op} (hop : op.touchesChannels = false) :
    (h.step op).Sound := by
  have hinvoke : op.isInvoke = false := by
    cases op with
    | invoke number r => cases hop
    | _ => rfl
  obtain ⟨hsame, hsent⟩ := h.keepsChannels_step hop
  exact hs.of_settles hsame hsent fun _ hledger => h.settles_step hinvoke hledger

end History

end Session

end MediaControl
