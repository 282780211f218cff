import MediaControl.Proofs.Client.Numbering
import MediaControl.Proofs.Header.Naming
import MediaControl.Proofs.Table

/-!
# Sending all or nothing (SPEC_FULL §4.7)

Sending a request changes the channel's next id, the correlator and the queue of the connection, one
after the other, and goes back where the channel or the connection is closed.  In every state of a
session the request is sent once, under an id that the channel never had and in the place of no other
request; or nothing is sent, and whoever waits for an answer waits as before.

Main statements: `lt_nextId_of_mem_idsTaken` and `invoke_all_or_nothing`.
-/

set_option autoImplicit false

namespace MediaControl.Session

/-! ## What sending comes to -/

/-- The request as it was given, but for its id, and for the channel, which is named behind all other
headers if no header names one. -/
structure Carries (sent r : Request) (id : Nat) (channel : ChannelId) : Prop where
  id : sent.id = id
  method : sent.method = r.method
  content : sent.content = r.content
  named : Headers.contains r.headers Catalogue.channelIdentifier = true → sent.headers = r.headers
  unnamed : Headers.contains r.headers Catalogue.channelIdentifier = false →
    sent.headers = r.headers ++ [channel.header]

theorem carries_address (id : Nat) (channel : ChannelId) (r : Request) :
    Carries (address id channel r) r id channel where
  id := rfl
  method := rfl
  content := rfl
  named := fun hnamed => Headers.stampMissing_of_contains hnamed channel
  unnamed := by
    intro hnone
    have hnew : Headers.contains r.headers channel.header.name = false := hnone
    exact (Headers.stampMissing_of_not_contains hnone channel).trans (Headers.set_of_not_contains hnew)

/-- Nothing is queued, no entry and no slot comes or goes; one id of the channel may have been spent. -/
structure NothingSent (s : Session) (number : Nat) (s' : Session) : Prop where
  connection : s'.connection = s.connection
  entries : s'.correlator.entries = s.correlator.entries
  slots : s'.correlator.slots = s.correlator.slots
  table : s'.table = s.table
  limit? : s'.limit? = s.limit?
  channels : s'.channels = s.channels ∨
    s'.channels = (s.modify number fun c => { c with nextId := c.nextId + 1 }).channels

theorem NothingSent.refl (s : Session) (number : Nat) : NothingSent s number s :=
  ⟨rfl, rfl, rfl, rfl, rfl, .inl rfl⟩

/-- The request is queued behind all others; it has an entry of its own behind all others, and an empty
slot.  The id is spent, and that is all. -/
structure SentOnce (s : Session) (number : Nat) (c : ClientChannel) (r : Request) (p : Pending)
    (s' : Session) : Prop where
  connection : ∃ sent, Carries sent r p.id c.id ∧ s'.connection =
    { s.connection with outbound := s.connection.outbound ++ [.request sent] }
  vacant : s.correlator.entries.get? (c.id.key, p.id) = none
  entries : s'.correlator.entries.rows =
    s.correlator.entries.rows ++ [((c.id.key, p.id), ⟨p.slot, .response⟩)]
  unused : s.correlator.slots.get? p.slot = none
  slots : s'.correlator.slots.rows =
    s.correlator.slots.rows ++ [(p.slot, ({} : Mailbox Error Message))]
  table : s'.table = s.table
  limit? : p.limit? = s.limit? ∧ s'.limit? = s.limit?
  channels : s'.channels = (s.modify number fun c => { c with nextId := c.nextId + 1 }).channels

/-! ## Ids that were taken -/

/-- The id that an operation takes on the channel, if it takes one. -/
def idTaken? (s : Session) (number : Nat) : Op → Option Nat
  | .invoke other _ =>
    if other = number ∧ s.isClosed number = false then some (s.takeId number).1 else none
  | _ => none

/-- Only sending on the open channel takes an id, and it takes the next one. -/
theorem idTaken?_eq_some_iff {s : Session} {number : Nat} {op : Op} {id : Nat} :
    s.idTaken? number op = some id ↔ ∃ r c, op = .invoke number r ∧ s.channel? number = some c ∧
      c.isClosed = false ∧ c.nextId = id := by
  constructor
  · intro htaken
    unfold idTaken? at htaken
    split at htaken
    · rename_i other r
      split at htaken
      · rename_i hopen
        obtain ⟨rfl, hopen⟩ := hopen
        cases hc : s.channel? other with
        | none =>
            rw [isClosed, hc] at hopen
            cases hopen
        | some c =>
            rw [isClosed_of_channel? hc] at hopen
            rw [takeId, hc] at htaken
            exact ⟨r, c, rfl, rfl, hopen, Option.some.inj htaken⟩
      · cases htaken
    · cases htaken
  · rintro ⟨r, c, rfl, hc, hopen, rfl⟩
    have hisOpen : s.isClosed number = false := (isClosed_of_channel? hc).trans hopen
    rw [idTaken?, if_pos ⟨rfl, hisOpen⟩, takeId, hc]
    rfl

namespace History

variable {h h' : History} {number : Nat} {c : ClientChannel}

/-- The ids that operations take on the channel, one after the other. -/
def idsTaken (h : History) (number : Nat) : List Op → List Nat
  | [] => []
  | op :: ops => (h.session.idTaken? number op).toList ++ (h.step op).idsTaken number ops

/-- The next id of an open channel is spent by sending on it. -/
theorem Invoked.standing (hinvoked : h.Invoked number h') (hc : h.session.channel? number = some c)
    (hopen : c.isClosed = false) :
    h'.session.standing? number = some { c.standing with nextId := c.nextId + 1 } := by
  cases hinvoked with
  | absent hnone => cases hnone.symm.trans hc
  | refused hfound hclosed =>
      cases hfound.symm.trans hc
      cases hopen.symm.trans hclosed
  | queued hfound _ _ _ _ hsame _ =>
      cases hfound.symm.trans hc
      exact standing?_takeId hfound hsame
  | withdrawn hfound _ hsame _ =>
      cases hfound.symm.trans hc
      exact standing?_takeId hfound hsame

theorem lt_nextId_of_idTaken? {op : Op} {id : Nat} (htaken : h.session.idTaken? number op = some id) :
    ∃ c', (h.step op).session.standing? number = some c' ∧ id < c'.nextId := by
  obtain ⟨r, c, rfl, hc, hopen, rfl⟩ := idTaken?_eq_some_iff.mp htaken
  exact ⟨_, (h.invoke_cases number r).standing hc hopen, Nat.lt_succ_self _⟩

/-- Every id that was ever taken on a channel is below its next id. -/
theorem lt_nextId_of_mem_idsTaken {ops : List Op} {id : Nat} (hmem : id ∈ h.idsTaken number ops) :
    ∃ c', (h.run ops).session.standing? number = some c' ∧ id < c'.nextId := by
  induction ops generalizing h with
  | nil => cases hmem
  | cons op ops ih =>
      rcases List.mem_append.mp hmem with htaken | hlater
      · obtain ⟨c', hc', hlt⟩ := lt_nextId_of_idTaken? (Option.mem_toList.mp htaken)
        obtain ⟨d, hd, -, hle⟩ := (h.step op).outlasts_run ops number c' hc'
        exact ⟨d, hd, Nat.lt_of_lt_of_le hlt hle⟩
      · exact ih hlater

/-! ## Sending in a sound state -/

theorem Sound.get?_nextSlot (hs : h.Sound) :
    h.session.correlator.slots.get? h.session.correlator.nextSlot = none := by
  obtain ⟨issued, hledger⟩ := hs.ledger
  exact (hledger.untouched _ (Nat.le_refl _)).2

theorem Sound.vacant (hs : h.Sound) (hc : h.session.channel? number = some c)
    (hopen : c.isClosed = false) :
    h.session.correlator.entries.get? (c.id.key, c.nextId) = none := by
  have hfree := hs.get?_nextId hc hopen
  rwa [ChannelId.trim_key] at hfree

/-- A request that is struck out again leaves what was there before it was entered. -/
theorem Sound.nothingSent_withdrawn (hs : h.Sound) (hc : h.session.channel? number = some c)
    (hopen : c.isClosed = false) :
    NothingSent h.session number
      { h.session.modify number fun c => { c with nextId := c.nextId + 1 } with
        correlator := ((h.session.correlator.register c.id.key c.nextId).2.forget c.id.key
          c.nextId).drop h.session.correlator.nextSlot } where
  connection := rfl
  entries := (Table.erase_insert ..).trans (Table.erase_eq_self (hs.get?_nextId hc hopen))
  slots := (Table.erase_insert ..).trans (Table.erase_eq_self hs.get?_nextSlot)
  table := rfl
  limit? := rfl
  channels := .inr rfl

/-- Where the channel or the connection is closed, nothing is sent. -/
theorem Sound.invoke_of_closed (hs : h.Sound) (hc : h.session.channel? number = some c)
    (hclosed : c.isClosed = true ∨ h.session.connection.closed = true) (r : Request) :
    ∃ e s', h.session.invoke? number r = some (.error e, s') ∧ e.kind = .connectionClosed ∧
      NothingSent h.session number s' := by
  rw [invoke?, hc, Option.map_some]
  cases hopen : c.isClosed with
  | true =>
      rw [sendOn_of_isClosed hc hopen]
      exact ⟨_, _, rfl, rfl, .refl _ _⟩
  | false =>
      have hconnection : h.session.connection.closed = true := by
        apply hclosed.resolve_left
        rw [hopen]
        exact Bool.false_ne_true
      rw [sendOn_of_closed hc hopen hconnection]
      exact ⟨_, _, rfl, rfl, hs.nothingSent_withdrawn hc hopen⟩

/-- Where both are open, the request is sent once, under the next id of the channel. -/
theorem Sound.invoke_of_open (hs : h.Sound) (hc : h.session.channel? number = some c)
    (hopen : c.isClosed = false) (hconnection : h.session.connection.closed = false) (r : Request) :
    ∃ p s', h.session.invoke? number r = some (.ok p, s') ∧ p.id = c.nextId ∧
      SentOnce h.session number c r p s' := by
  have hentries : (h.session.correlator.register c.id.key c.nextId).2.entries.rows =
      h.session.correlator.entries.rows ++
        [((c.id.key, c.nextId), ⟨h.session.correlator.nextSlot, .response⟩)] := by
    rw [Correlator.register, ChannelId.trim_key]
    exact Table.rows_insert (hs.vacant hc hopen) _
  have hslots := Table.rows_insert hs.get?_nextSlot ({} : Slot)
  rw [invoke?, hc, Option.map_some, sendOn_eq hc hopen hconnection]
  refine ⟨_, _, rfl, rfl, ?_⟩
  exact
    { connection := ⟨_, carries_address c.nextId c.id r, rfl⟩
      vacant := hs.vacant hc hopen
      entries := hentries
      unused := hs.get?_nextSlot
      slots := hslots
      table := rfl
      limit? := ⟨rfl, rfl⟩
      channels := rfl }

/-- In every state that a session comes to, sending a request on a channel is all or nothing.  Where the
channel or the connection is closed it fails, and nothing is queued and no entry or slot comes or goes.
Where both are open it succeeds: the request is queued once, under an id above all that were taken on
the channel before, and one entry is added, in the place of none. -/
theorem invoke_all_or_nothing (connection : Connection) (limit? : Option Nat) (ops : List Op)
    {number : Nat} {c : ClientChannel}
    (hc : (run { session := { connection, limit? } } ops).session.channel? number = some c)
    (r : Request) :
    let start : History := { session := { connection, limit? } }
    let s := (start.run ops).session
    (c.isClosed = true ∨ s.connection.closed = true →
      ∃ e s', s.invoke? number r = some (.error e, s') ∧ e.kind = .connectionClosed ∧
        NothingSent s number s') ∧
    (c.isClosed = false → s.connection.closed = false →
      ∃ p s', s.invoke? number r = some (.ok p, s') ∧ SentOnce s number c r p s' ∧
        ∀ id ∈ start.idsTaken number ops, id < p.id) := by
  intro start s
  have hs : (start.run ops).Sound := (sound_start connection limit?).run ops
  refine ⟨fun hclosed => hs.invoke_of_closed hc hclosed r, ?_⟩
  intro hopen hconnection
  obtain ⟨p, s', hsent, hid, honce⟩ := hs.invoke_of_open hc hopen hconnection r
  refine ⟨p, s', hsent, honce, ?_⟩
  intro id hmem
  obtain ⟨c', hc', hlt⟩ := lt_nextId_of_mem_idsTaken hmem
  rw [standing?_of_channel? hc] at hc'
  cases hc'
  exact Nat.lt_of_lt_of_eq hlt hid.symm

/-- On the channel on which two requests were sent a third is, under the third id. -/
theorem invoke_all_or_nothing_repeated :
    let start : History := { session := { connection := repeatedConnection } }
    let s := (start.run repeatedOps).session
    ∃ c p s', s.channel? 0 = some c ∧ c.isClosed = false ∧ s.connection.closed = false ∧
      s.invoke? 0 (repeatedRequest 0) = some (.ok p, s') ∧
      SentOnce s 0 c (repeatedRequest 0) p s' ∧ start.idsTaken 0 repeatedOps = [1, 2] ∧
      2 < p.id := by
  intro start s
  have hc : s.channel? 0 = some { id := repeatedChannel, nextId := 3 } := by rfl
  have htaken : start.idsTaken 0 repeatedOps = [1, 2] := by rfl
  obtain ⟨-, hopen⟩ := invoke_all_or_nothing repeatedConnection none repeatedOps hc (repeatedRequest 0)
  obtain ⟨p, s', hsent, honce, habove⟩ := hopen rfl rfl
  refine ⟨_, p, s', hc, rfl, rfl, hsent, honce, htaken, ?_⟩
  apply habove
  rw [htaken]
  decide

end History

end MediaControl.Session
