import MediaControl.Proofs.Client.Readers
import MediaControl.Proofs.Server.Refusals
import MediaControl.Server.Registry

/-!
# Registering a channel (SPEC_FULL §4.3)

On a server, and on a session of a client, a channel is registered under its key, and at most one
channel is registered under a key.  Whoever opens a channel gets it exactly if nothing is registered
under its key, and a failure leaves everything as it was.  Closing frees the key of the channel that is
closed and no other.  A session keeps the channels that were closed, and their keys may be taken again;
but a channel that was closed stays closed, so that closing it again does nothing, to whatever is
registered under its key by then.

Main statements: `Server.changes_step` (what an operation makes of the channels of a server),
`Session.History.isShut_step` (a closed channel stays closed), `Session.IsShut.closeChannel_eq` and
`registration_exclusive`.
-/

set_option autoImplicit false

namespace MediaControl

/-! ## Servers -/

namespace Server

variable {s s' : Server} {id : ChannelId} {handlers : Handlers}

/-- What an operation makes of the channels of a server. -/
inductive Changes (s : Server) : Server → Prop
  | same : Changes s s
  | opened {id : ChannelId} {handlers : Handlers} {s' : Server}
      (hopened : s.openChannel id handlers = .ok s') : Changes s s'
  | closed (text : String) : Changes s (s.close text)
  | received (connection : Nat) (m : Message) : Changes s (s.receive connection m).1
  | disconnected (connection : Nat) : Changes s (s.disconnect connection)

/-- The handlers are of the channel's own type, and nothing is registered under its key. -/
def MayOpen (s : Server) (id : ChannelId) (handlers : Handlers) : Prop :=
  handlers.resource = id.resource ∧ id.key ∉ s.channels.keys

theorem isOpen_key_iff : s.isOpen id.key = true ↔ id.key ∈ s.channels.keys := by
  rw [isOpen, ChannelTable.lookup, ChannelId.trim_key, ← Option.ne_none_iff_isSome, Ne,
    Table.get?_eq_none_iff, not_not]

theorem openChannel_eq_ok_iff :
    s.openChannel id handlers = .ok s' ↔ s.MayOpen id handlers ∧ s' = s.register id handlers := by
  unfold openChannel MayOpen
  rw [← isOpen_key_iff]
  split
  · rename_i hresource
    exact iff_of_false (fun h => by cases h) fun h => hresource h.1.1
  · rename_i hresource
    split
    · rename_i hopen
      exact iff_of_false (fun h => by cases h) fun h => h.1.2 hopen
    · rename_i hfree
      rw [Except.ok.injEq, eq_comm]
      exact ⟨fun h => ⟨⟨not_not.mp hresource, hfree⟩, h⟩, And.right⟩

theorem openNamed_eq_ok_iff {text : String} :
    s.openNamed text handlers = .ok (id, s') ↔
      ChannelId.parse text = .ok id ∧ s.openChannel id handlers = .ok s' := by
  constructor
  · intro h
    unfold openNamed at h
    split at h
    · cases h
    · rename_i named hnamed
      cases hopened : s.openChannel named handlers with
      | error e =>
          rw [hopened] at h
          cases h
      | ok server =>
          rw [hopened] at h
          cases h
          exact ⟨hnamed, hopened⟩
  · rintro ⟨hnamed, hopened⟩
    simp only [openNamed, hnamed, hopened]
    rfl

theorem MayOpen.rows_register (h : s.MayOpen id handlers) :
    (s.register id handlers).channels.rows =
      s.channels.rows ++ [(id.key, (⟨id, handlers, {}⟩ : ServerChannel))] :=
  Table.rows_insert (Table.get?_eq_none_iff.mpr h.2) _

/-- No operation makes a second row for a key. -/
theorem Changes.nodup (h : Changes s s') (hnodup : s.channels.keys.Nodup) :
    s'.channels.keys.Nodup := by
  cases h with
  | same => exact hnodup
  | opened hopened =>
      obtain ⟨-, rfl⟩ := openChannel_eq_ok_iff.mp hopened
      exact Table.nodup_keys_insert hnodup _ _
  | closed text => exact Table.nodup_keys_erase hnodup _
  | received connection m =>
      unfold receive
      split
      · exact hnodup
      · exact Table.nodup_keys_insert hnodup _ _
  | disconnected connection =>
      rw [disconnect, Table.keys_map]
      exact hnodup

namespace History

variable {h : History}

theorem server_take (h : History) (connection : Nat) (m : Message) :
    (h.take connection m).server = (h.server.receive connection m).1 := by
  unfold take
  generalize h.server.receive connection m = result
  obtain ⟨server, verdict⟩ := result
  cases verdict with
  | ignored => rfl
  | rejected response => exact (posted_post _ _ _ _).server
  | accepted call => rfl

theorem changes_step (h : History) (op : Op) : Changes h.server (h.step op).server := by
  cases op with
  | openChannel id handlers =>
      rw [step]
      split
      · rename_i server hopened
        exact .opened hopened
      · exact .same
  | openNamed text handlers =>
      rw [step]
      split
      · rename_i id server hnamed
        exact .opened (openNamed_eq_ok_iff.mp hnamed).2
      · exact .same
  | close text => exact .closed text
  | connect peer limit => exact .same
  | receive connection m =>
      rw [step]
      split
      · rw [server_take]
        exact .received connection m
      · exact .same
  | drain connection => exact .same
  | shut connection => exact .same
  | disconnect connection =>
      rw [step]
      split
      · exact .disconnected connection
      · exact .same
  | turn request t =>
      rw [step]
      split
      · exact .same
      · rw [(posted_postAll _ _ _ _).server]
        exact .same

theorem nodup_run (hnodup : h.server.channels.keys.Nodup) (ops : List Op) :
    (h.run ops).server.channels.keys.Nodup := by
  induction ops generalizing h with
  | nil => exact hnodup
  | cons op ops ih => exact ih ((h.changes_step op).nodup hnodup)

/-- At most one channel is registered under a key, which is its own.  A channel is opened exactly if its
text names one, if the handlers are of its type and if nothing is registered under its key; where it is
not, nothing happens.  Closing frees the key in question, and no other. -/
structure Exclusive (h : History) : Prop where
  distinct : h.server.channels.keys.Nodup
  keyed : ∀ row ∈ h.server.channels.rows, row.1 = row.2.id.key
  opens (id : ChannelId) (handlers : Handlers) :
    (∃ s, h.server.openChannel id handlers = .ok s) ↔ h.server.MayOpen id handlers
  opensNamed (text : String) (handlers : Handlers) :
    (∃ opened, h.server.openNamed text handlers = .ok opened) ↔
      ∃ id, ChannelId.parse text = .ok id ∧ h.server.MayOpen id handlers
  opened {id : ChannelId} {handlers : Handlers} {s : Server} :
    h.server.openChannel id handlers = .ok s →
    s.channels.rows = h.server.channels.rows ++ [(id.key, (⟨id, handlers, {}⟩ : ServerChannel))]
  openedNamed {text : String} {handlers : Handlers} {id : ChannelId} {s : Server} :
    h.server.openNamed text handlers = .ok (id, s) →
    ChannelId.parse text = .ok id ∧ h.server.openChannel id handlers = .ok s
  fails {id : ChannelId} {handlers : Handlers} :
    ¬ h.server.MayOpen id handlers → h.step (.openChannel id handlers) = h
  failsNamed {text : String} {handlers : Handlers} :
    (∀ id, ChannelId.parse text = .ok id → ¬ h.server.MayOpen id handlers) →
    h.step (.openNamed text handlers) = h
  closes (text : String) : (h.step (.close text)).server.channels.rows =
    h.server.channels.rows.filter fun row => row.1 ≠ Text.trim text

theorem exclusive (hkeyed : h.server.Keyed) (hnodup : h.server.channels.keys.Nodup) :
    h.Exclusive := by
  have hopens : ∀ id handlers, (∃ s, h.server.openChannel id handlers = .ok s) ↔
      h.server.MayOpen id handlers := by
    intro id handlers
    simp only [openChannel_eq_ok_iff]
    exact ⟨fun ⟨_, hmay, _⟩ => hmay, fun hmay => ⟨_, hmay, rfl⟩⟩
  have hopensNamed : ∀ text handlers, (∃ opened, h.server.openNamed text handlers = .ok opened) ↔
      ∃ id, ChannelId.parse text = .ok id ∧ h.server.MayOpen id handlers := by
    intro text handlers
    simp only [Prod.exists, openNamed_eq_ok_iff, exists_and_left, hopens]
  constructor
  case distinct => exact hnodup
  case keyed =>
    intro row hrow
    exact (hkeyed _ _ ((Table.mem_rows_iff hnodup).mp hrow)).symm
  case opens => exact hopens
  case opensNamed => exact hopensNamed
  case opened =>
    intro id handlers s hopened
    obtain ⟨hmay, rfl⟩ := openChannel_eq_ok_iff.mp hopened
    exact hmay.rows_register
  case openedNamed =>
    intro text handlers id s
    exact openNamed_eq_ok_iff.mp
  case fails =>
    intro id handlers hnot
    rw [step]
    split
    · rename_i server hopened
      exact absurd ((hopens id handlers).mp ⟨server, hopened⟩) hnot
    · rfl
  case failsNamed =>
    intro text handlers hnot
    rw [step]
    split
    · rename_i id server hnamed
      obtain ⟨other, hother, hmay⟩ := (hopensNamed text handlers).mp ⟨_, hnamed⟩
      exact absurd hmay (hnot other hother)
    · rfl
  case closes => exact fun text => rfl

end History

end Server

/-! ## Sessions -/

namespace Session

variable {s s' : Session} {id : ChannelId} {number other : Nat} {c : ClientChannel}

/-- The connection is open, and nothing is registered under the key of the channel. -/
def MayOpen (s : Session) (id : ChannelId) : Prop :=
  s.connection.closed = false ∧ id.key ∉ s.table.keys

/-- The session with a channel more, behind all others. -/
def withChannel (s : Session) (id : ChannelId) : Session :=
  { s with
    table := ⟨s.table.rows ++ [(id.key, s.channels.length)]⟩
    channels := s.channels ++ [{ id }] }

theorem openChannel_eq_ok_iff :
    s.openChannel id = .ok (number, s') ↔
      s.MayOpen id ∧ number = s.channels.length ∧ s' = s.withChannel id := by
  constructor
  · intro hopened
    obtain ⟨hconnection, hfree, rfl, rfl⟩ := openChannel_eq_ok hopened
    refine ⟨⟨hconnection, Table.get?_eq_none_iff.mp hfree⟩, rfl, ?_⟩
    rw [withChannel, ← Table.rows_insert hfree]
  · rintro ⟨⟨hconnection, hfree⟩, rfl, rfl⟩
    have hnone := Table.get?_eq_none_iff.mpr hfree
    have hopened : s.openChannel id = .ok (s.channels.length, { s with
        table := s.table.insert id.key s.channels.length
        channels := s.channels ++ [{ id }] }) := by
      simp [openChannel, hconnection, ChannelTable.lookup, ChannelTable.register, hnone]
    rw [hopened, withChannel, ← Table.rows_insert hnone]

theorem openNamed_eq_ok_iff {text : String} :
    s.openNamed text = .ok (number, s') ↔
      ∃ id, ChannelId.parse text = .ok id ∧ s.openChannel id = .ok (number, s') := by
  unfold openNamed
  cases ChannelId.parse text with
  | error reason => simp
  | ok id => simp

/-! ### Closed channels -/

/-- The channel with the number was opened, and has been closed. -/
def IsShut (s : Session) (number : Nat) : Prop :=
  ∃ c, s.standing? number = some c ∧ c.isClosed = true

theorem KeepsChannels.isShut (hsame : KeepsChannels s s') (hs : s.IsShut number) :
    s'.IsShut number := by
  obtain ⟨c, hc, hclosed⟩ := hs
  exact ⟨c, (hsame.standing number).trans hc, hclosed⟩

theorem IsShut.ne (hs : s.IsShut number) (hc : s.channel? other = some c)
    (hopen : c.isClosed = false) : other ≠ number := by
  rintro rfl
  obtain ⟨c', hc', hclosed⟩ := hs
  cases hc'.symm.trans (standing?_of_channel? hc)
  exact Bool.noConfusion (hopen.symm.trans hclosed)

theorem IsShut.openChannel (hs : s.IsShut number) (hopened : s.openChannel id = .ok (other, s')) :
    s'.IsShut number := by
  obtain ⟨c, hc, hclosed⟩ := hs
  obtain ⟨-, -, rfl⟩ := openChannel_eq_ok_iff.mp hopened
  refine ⟨c, ?_, hclosed⟩
  exact (s.standing?_append id number).trans ((if_neg (ne_length_of_standing? hc)).trans hc)

theorem IsShut.closeChannel_eq (hs : s.IsShut number) : s.closeChannel number = s := by
  rcases s.closeChannel_cases number with hsame | ⟨c, hby⟩
  · exact hsame
  · exact absurd rfl (hs.ne hby.channel hby.isOpen)

theorem IsShut.closeChannel (hs : s.IsShut number) (other : Nat) :
    (s.closeChannel other).IsShut number := by
  rcases s.closeChannel_cases other with hsame | ⟨c, hby⟩
  · rw [hsame]
    exact hs
  · obtain ⟨c', hc', hclosed⟩ := hs
    exact ⟨c', (hby.others number (IsShut.ne ⟨c', hc', hclosed⟩ hby.channel hby.isOpen)).trans hc',
      hclosed⟩

theorem IsShut.takeId (hs : s.IsShut number) (hc : s.channel? other = some c)
    (hopen : c.isClosed = false)
    (hsame : KeepsChannels (s.modify other fun c => { c with nextId := c.nextId + 1 }) s') :
    s'.IsShut number := by
  have hne := hs.ne hc hopen
  obtain ⟨c', hc', hclosed⟩ := hs
  exact ⟨c', (hsame.standing number).trans ((s.standing?_modify_of_ne hne _).trans hc'), hclosed⟩

theorem closedBy_of_isOpen (hc : s.channel? number = some c) (hopen : c.isClosed = false) :
    ClosedBy s number c (s.closeChannel number) := by
  rcases s.closeChannel_cases number with hsame | ⟨c', hby⟩
  · -- the line of the channel says that it was closed
    have hevents := eventsAt?_closeChannel hc hopen
    rw [hsame, eventsAt?_of_channel? hc, hopen] at hevents
    cases hevents
  · cases hc.symm.trans hby.channel
    exact hby

theorem isShut_closeChannel (hc : s.channel? number = some c) :
    (s.closeChannel number).IsShut number := by
  cases hopen : c.isClosed with
  | true => exact IsShut.closeChannel ⟨_, standing?_of_channel? hc, hopen⟩ number
  | false => exact ⟨_, (closedBy_of_isOpen hc hopen).self, rfl⟩

theorem channel?_closeChannel_of_ne (s : Session) (hne : number ≠ other) :
    (s.closeChannel number).channel? other = s.channel? other := by
  unfold closeChannel
  split
  · rfl
  · split
    · rfl
    · simp only [endChannel, channel?_modify, if_neg hne]
      exact (s.channel?_modify number _ other).trans (if_neg hne)

namespace History

variable {h : History}

theorem isShut_step (hs : h.session.IsShut number) (op : Op) : (h.step op).session.IsShut number := by
  have hopened : ∀ {h'}, h.Opened h' → h'.session.IsShut number := by
    intro h' hopened
    cases hopened with
    | refused => exact hs
    | opened hopened => exact hs.openChannel hopened
  cases op with
  | openChannel id => exact hopened (h.openChannel_cases id)
  | openNamed text => exact hopened (h.openNamed_cases text)
  | closeChannel other => exact hs.closeChannel other
  | invoke other r =>
      have hinvoked := h.invoke_cases other r
      generalize h.step (.invoke other r) = h' at hinvoked
      cases hinvoked with
      | absent hc => exact hs
      | refused hc hclosed => exact hs
      | queued hc hopen hconnection hid hslot hsame hcorrelator => exact hs.takeId hc hopen hsame
      | withdrawn hc hopen hsame hcorrelator => exact hs.takeId hc hopen hsame
  | _ => exact (h.keepsChannels_step rfl).1.isShut hs

theorem isShut_run (hs : h.session.IsShut number) (ops : List Op) :
    (h.run ops).session.IsShut number := by
  induction ops generalizing h with
  | nil => exact hs
  | cons op ops ih => exact ih (isShut_step hs op)

/-- At most one channel is registered under a key, and the open channels are registered under theirs.  A
channel is opened exactly if its text names one, if the connection is open and if nothing is registered
under its key; where it is not, nothing happens.  Closing an open channel frees its key and leaves the
other channels as they are; closing a channel that was closed before, whatever came in between, does
nothing at all. -/
structure Exclusive (h : History) : Prop where
  distinct : h.session.table.keys.Nodup
  registered (key : String) (number : Nat) : h.session.table.get? key = some number ↔
    ∃ c, h.session.channel? number = some c ∧ c.isClosed = false ∧ c.id.key = key
  opens (id : ChannelId) :
    (∃ opened, h.session.openChannel id = .ok opened) ↔ h.session.MayOpen id
  opensNamed (text : String) :
    (∃ opened, h.session.openNamed text = .ok opened) ↔
      ∃ id, ChannelId.parse text = .ok id ∧ h.session.MayOpen id
  opened {id : ChannelId} {number : Nat} {s : Session} :
    h.session.openChannel id = .ok (number, s) →
    number = h.session.channels.length ∧ s = h.session.withChannel id
  openedNamed {text : String} {number : Nat} {s : Session} :
    h.session.openNamed text = .ok (number, s) →
    ∃ id, ChannelId.parse text = .ok id ∧ h.session.openChannel id = .ok (number, s)
  fails {id : ChannelId} : ¬ h.session.MayOpen id → h.step (.openChannel id) = h
  failsNamed {text : String} :
    (∀ id, ChannelId.parse text = .ok id → ¬ h.session.MayOpen id) → h.step (.openNamed text) = h
  closes {number : Nat} {c : ClientChannel} : h.session.channel? number = some c →
    c.isClosed = false →
    (h.step (.closeChannel number)).session.table.rows =
      (h.session.table.rows.filter fun row => row.1 ≠ c.id.key) ∧
    ∀ other, number ≠ other →
      (h.step (.closeChannel number)).session.channel? other = h.session.channel? other
  closesOnce {number : Nat} {c : ClientChannel} (later : List Op) :
    h.session.channel? number = some c →
    ((h.step (.closeChannel number)).run later).step (.closeChannel number) =
      (h.step (.closeChannel number)).run later

theorem exclusive (hs : h.Sound) (hnodup : h.session.table.keys.Nodup) : h.Exclusive := by
  have hopens : ∀ id, (∃ opened, h.session.openChannel id = .ok opened) ↔ h.session.MayOpen id := by
    intro id
    simp only [Prod.exists, openChannel_eq_ok_iff]
    exact ⟨fun ⟨_, _, hmay, _⟩ => hmay, fun hmay => ⟨_, _, hmay, rfl, rfl⟩⟩
  have hopensNamed : ∀ text, (∃ opened, h.session.openNamed text = .ok opened) ↔
      ∃ id, ChannelId.parse text = .ok id ∧ h.session.MayOpen id := by
    intro text
    simp only [← hopens, Prod.exists, openNamed_eq_ok_iff]
    constructor
    · rintro ⟨number, s, id, hid, hopened⟩
      exact ⟨id, hid, number, s, hopened⟩
    · rintro ⟨id, hid, number, s, hopened⟩
      exact ⟨number, s, id, hid, hopened⟩
  constructor
  case distinct => exact hnodup
  case registered =>
    intro key number
    rw [hs.table key number]
    constructor
    · rintro ⟨c, hc, hopen, hkey⟩
      obtain ⟨channel, hchannel, rfl⟩ := Option.map_eq_some_iff.mp hc
      exact ⟨channel, hchannel, hopen, hkey⟩
    · rintro ⟨c, hc, hopen, hkey⟩
      exact ⟨c.standing, standing?_of_channel? hc, hopen, hkey⟩
  case opens => exact hopens
  case opensNamed => exact hopensNamed
  case opened =>
    intro id number s hopened
    exact (openChannel_eq_ok_iff.mp hopened).2
  case openedNamed =>
    intro text number s
    exact openNamed_eq_ok_iff.mp
  case fails =>
    intro id hnot
    rw [step]
    split
    · rename_i number session hopened
      exact absurd ((hopens id).mp ⟨_, hopened⟩) hnot
    · rfl
  case failsNamed =>
    intro text hnot
    rw [step]
    split
    · rename_i number session hnamed
      obtain ⟨id, hid, hmay⟩ := (hopensNamed text).mp ⟨_, hnamed⟩
      exact absurd hmay (hnot id hid)
    · rfl
  case closes =>
    intro number c hc hopen
    have hby := closedBy_of_isOpen hc hopen
    refine ⟨?_, fun other hne => h.session.channel?_closeChannel_of_ne hne⟩
    rw [step, hby.table]
    rfl
  case closesOnce =>
    intro number c later hc
    have hshut : ((h.step (.closeChannel number)).run later).session.IsShut number :=
      isShut_run (isShut_closeChannel hc) later
    rw [step, hshut.closeChannel_eq]

end History

end Session

/-- Whatever happens to a server, and to a session of a client, channels are registered one at a time
under a key, and only a channel that is open is affected by closing it. -/
theorem registration_exclusive :
    (∀ ops, (Server.History.run {} ops).Exclusive) ∧
    ∀ (connection : Connection) (limit? : Option Nat) (ops : List Session.Op),
      (Session.History.run { session := { connection, limit? } } ops).Exclusive := by
  constructor
  · intro ops
    have hnodup : (Table.keys (Server.History.server {}).channels).Nodup := List.nodup_nil
    exact Server.History.exclusive (Server.keyed_run ops) (Server.History.nodup_run hnodup ops)
  · intro connection limit? ops
    have hnodup : (Table.keys (Session.mk connection {} [] {} limit?).table).Nodup := List.nodup_nil
    exact Session.History.exclusive ((Session.History.sound_start connection limit?).run ops)
      (Session.History.nodup_table_run hnodup ops)

/-- A channel that is opened under the key of a closed one stays when that is closed again. -/
example : (Session.History.run { session := { connection := { id := 0, peer := "server" } } }
    [.openNamed "c@recorder", .closeChannel 0, .openNamed " c @recorder",
      .closeChannel 0]).session.table.rows = [("c", 1)] := by
  with_unfolding_all rfl

end MediaControl
