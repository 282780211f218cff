import MediaControl.Client.Session
import MediaControl.Proofs.Header.ChannelId

/-!
# What the operations of a session change

Whether a request can be sent on a channel, and under which id, depends on little of a session: the
table of the open channels, and of every channel its name, whether it is closed, and the id of its
next request.  Most operations leave all of that alone and act on the correlator.

Main statements: `receive_cases`, `keepsChannels_stop` and their like, `sendOn_cases` (what comes of
sending a request), `sendOn_eq` (what comes of it where nothing is closed) and `sendOn_of_closed`.
-/

set_option autoImplicit false

namespace MediaControl

/-- What decides about sending on a channel. -/
structure Standing where
  id : ChannelId
  isClosed : Bool
  nextId : Nat

/-- What decides about sending on the channel. -/
def ClientChannel.standing (c : ClientChannel) : Standing := ⟨c.id, c.isClosed, c.nextId⟩

namespace Session

/-- What decides about sending on the channel with the number. -/
def standing? (s : Session) (number : Nat) : Option Standing :=
  (s.channel? number).map ClientChannel.standing

theorem standing?_of_channel? {s : Session} {number : Nat} {c : ClientChannel}
    (h : s.channel? number = some c) : s.standing? number = some c.standing := by
  rw [standing?, h]
  rfl

theorem isClosed_of_channel? {s : Session} {number : Nat} {c : ClientChannel}
    (h : s.channel? number = some c) : s.isClosed number = c.isClosed := by
  rw [isClosed, h]

theorem channel?_modify (s : Session) (number : Nat) (f : ClientChannel → ClientChannel)
    (other : Nat) :
    (s.modify number f).channel? other =
      if number = other then (s.channel? other).map f else s.channel? other := by
  rw [channel?, modify, List.getElem?_modify, channel?]
  split
  · rfl
  · simp

theorem standing?_modify_of_ne (s : Session) {number other : Nat} (h : number ≠ other)
    (f : ClientChannel → ClientChannel) : (s.modify number f).standing? other = s.standing? other := by
  rw [standing?, channel?_modify, if_neg h, standing?]

theorem standing?_modify_self {s : Session} {number : Nat} {c : ClientChannel}
    (h : s.channel? number = some c) (f : ClientChannel → ClientChannel) :
    (s.modify number f).standing? number = some (f c).standing := by
  rw [standing?, channel?_modify, if_pos rfl, h]
  rfl

/-! ## Operations that leave the channels alone -/

/-- Nothing changed that decides about sending, except that the connection may have closed. -/
structure KeepsChannels (s s' : Session) : Prop where
  table : s'.table = s.table
  standing : ∀ number, s'.standing? number = s.standing? number
  closed : s.connection.closed = true → s'.connection.closed = true

theorem KeepsChannels.refl (s : Session) : KeepsChannels s s := ⟨rfl, fun _ => rfl, id⟩

theorem KeepsChannels.trans {s₁ s₂ s₃ : Session} (h₁ : KeepsChannels s₁ s₂)
    (h₂ : KeepsChannels s₂ s₃) : KeepsChannels s₁ s₃ where
  table := h₂.table.trans h₁.table
  standing := fun number => (h₂.standing number).trans (h₁.standing number)
  closed := fun hclosed => h₂.closed (h₁.closed hclosed)

theorem keepsChannels_modify (s : Session) (number : Nat) {f : ClientChannel → ClientChannel}
    (h : ∀ c, (f c).standing = c.standing) : KeepsChannels s (s.modify number f) where
  table := rfl
  standing := by
    intro other
    by_cases hother : number = other
    · subst hother
      rw [standing?, channel?_modify, if_pos rfl, standing?, Option.map_map]
      exact congrFun (congrArg Option.map (funext h)) _
    · exact s.standing?_modify_of_ne hother f
  closed := id

theorem keepsChannels_correlator (s : Session) (correlator : Correlator) :
    KeepsChannels s { s with correlator } := ⟨rfl, fun _ => rfl, id⟩

theorem keepsChannels_notify (s : Session) (number : Nat) (m : Message) :
    KeepsChannels s (s.notify number m).1 := by
  unfold notify
  split
  · exact .refl s
  · exact s.keepsChannels_modify number fun _ => rfl

/-- The correlator handles a message that comes in, or nothing does. -/
theorem receive_cases (s : Session) (m : Message) :
    KeepsChannels s (s.receive m).1 ∧
      ((s.receive m).1.correlator = s.correlator ∨
        (s.receive m).1.correlator = (s.correlator.handle m).1) := by
  unfold receive
  cases ChannelTable.route s.table m with
  | error reason => exact ⟨.refl s, .inl rfl⟩
  | ok number =>
      have hkeeps := s.keepsChannels_correlator (s.correlator.handle m).1
      simp only [deliver]
      cases hleft : (s.correlator.handle m).2 with
      | none => exact ⟨hkeeps, .inr rfl⟩
      | some left =>
          refine ⟨hkeeps.trans (keepsChannels_notify _ number left), .inr ?_⟩
          simp only [notify]
          split <;> rfl

theorem connection_receive (s : Session) (m : Message) : (s.receive m).1.connection = s.connection := by
  unfold receive
  cases ChannelTable.route s.table m with
  | error reason => rfl
  | ok number =>
      simp only [deliver]
      cases (s.correlator.handle m).2 with
      | none => rfl
      | some left =>
          simp only [notify]
          split <;> rfl

theorem keepsChannels_endChannel (s : Session) (number : Nat) (key : String) (reason : Error) :
    KeepsChannels s (s.endChannel number key reason) := by
  refine (s.keepsChannels_correlator (s.correlator.failChannel key reason)).trans ?_
  exact keepsChannels_modify _ number fun _ => rfl

theorem keepsChannels_listen (s : Session) (number : Nat) (listener : String) :
    KeepsChannels s (s.listen number listener).1 :=
  s.keepsChannels_modify number fun _ => rfl

theorem keepsChannels_unlisten (s : Session) (number : Nat) : KeepsChannels s (s.unlisten number) :=
  s.keepsChannels_modify number fun _ => rfl

theorem keepsChannels_takeEvent {s s' : Session} {number : Nat} {item : Except Error Message}
    (h : s.takeEvent? number = some (item, s')) :
    KeepsChannels s s' ∧ s'.correlator = s.correlator := by
  unfold takeEvent? at h
  split at h
  · cases h
    exact ⟨s.keepsChannels_modify number fun _ => rfl, rfl⟩
  · cases h

theorem keepsChannels_abandonChannel (s : Session) (number : Nat) :
    KeepsChannels s (s.abandonChannel number) := by
  refine s.keepsChannels_modify number ?_
  intro c
  split <;> rfl

/-- When the connection stops, the channels of the table end one after the other. -/
theorem keepsChannels_stop (s : Session) (reason : Error) : KeepsChannels s (s.stop reason) := by
  have hrows : ∀ (rows : List (String × Nat)) (s : Session),
      KeepsChannels s (rows.foldl (fun s row => s.endChannel row.2 row.1 reason) s) := by
    intro rows
    induction rows with
    | nil => exact .refl
    | cons row rows ih =>
        intro s
        exact (s.keepsChannels_endChannel row.2 row.1 reason).trans (ih _)
  exact hrows s.table.rows s

/-! ## Sending -/

/-- What comes of sending a request on a channel: the channel is closed and nothing happens; or the
request is entered under the channel's next id, and queued; or it is entered, not queued, and struck
out again. -/
inductive SentOn (s : Session) (number : Nat) (c : ClientChannel) :
    Except Error Pending × Session → Prop
  | refused (e : Error) (hclosed : c.isClosed = true) : SentOn s number c (.error e, s)
  | queued (p : Pending) (s' : Session) (hopen : c.isClosed = false)
      (hconnection : s.connection.closed = false)
      (hid : p.id = c.nextId) (hslot : p.slot = s.correlator.nextSlot)
      (hsame : KeepsChannels (s.modify number fun c => { c with nextId := c.nextId + 1 }) s')
      (hcorrelator : s'.correlator = (s.correlator.register c.id.key c.nextId).2) :
      SentOn s number c (.ok p, s')
  | withdrawn (e : Error) (s' : Session) (hopen : c.isClosed = false)
      (hsame : KeepsChannels (s.modify number fun c => { c with nextId := c.nextId + 1 }) s')
      (hcorrelator : s'.correlator =
        ((s.correlator.register c.id.key c.nextId).2.forget c.id.key c.nextId).drop
          s.correlator.nextSlot) :
      SentOn s number c (.error e, s')

section sendOn

variable {s : Session} {number : Nat} {c : ClientChannel}

theorem sendOn_of_isClosed (h : s.channel? number = some c) (hclosed : c.isClosed = true)
    (r : Request) :
    s.sendOn number c.id r = (.error (.ofCause (.channelIsClosed c.id)), s) := by
  have hisClosed : s.isClosed number = true := (isClosed_of_channel? h).trans hclosed
  rw [sendOn, if_pos hisClosed]

/-- The session with the channel's next request entered. -/
def withNext (s : Session) (number : Nat) (c : ClientChannel) : Session :=
  { s.modify number fun c => { c with nextId := c.nextId + 1 } with
    correlator := (s.correlator.register c.id.key c.nextId).2 }

/-- On an open channel the request is entered under the next id of the channel and with the next slot,
and then it is queued or struck out again. -/
theorem sendOn_of_isOpen (h : s.channel? number = some c) (hopen : c.isClosed = false)
    (r : Request) :
    s.sendOn number c.id r =
      match (s.withNext number c).enqueue (address c.nextId c.id r) with
      | .ok s' => (.ok { id := c.nextId, slot := s.correlator.nextSlot, limit? := s'.limit? }, s')
      | .error e =>
        (.error e, (s.withNext number c).withdraw c.id c.nextId s.correlator.nextSlot) := by
  have hclosed : s.isClosed number = false := (isClosed_of_channel? h).trans hopen
  have hid : (s.takeId number).1 = c.nextId := by
    rw [takeId, h]
    rfl
  have hentered : (s.withNext number c).channel? number =
      some { c with nextId := c.nextId + 1 } := by
    show (s.modify number fun c => { c with nextId := c.nextId + 1 }).channel? number = _
    rw [channel?_modify, if_pos rfl, h]
    rfl
  have hstill : (s.withNext number c).isClosed number = false :=
    (isClosed_of_channel? hentered).trans hopen
  rw [sendOn, hclosed, if_neg Bool.false_ne_true]
  simp only [hid]
  show (s.withNext number c).submit number c.id c.nextId s.correlator.nextSlot r = _
  cases hqueue : (s.withNext number c).enqueue (address c.nextId c.id r) with
  | ok s' => rw [submit, hstill, if_neg Bool.false_ne_true, hqueue]
  | error e => rw [submit, hstill, if_neg Bool.false_ne_true, hqueue]

/-- On an open channel of an open connection a request is queued behind all others, under the next id of
the channel and with the next slot. -/
theorem sendOn_eq (h : s.channel? number = some c) (hopen : c.isClosed = false)
    (hconnection : s.connection.closed = false) (r : Request) :
    s.sendOn number c.id r =
      (.ok { id := c.nextId, slot := s.correlator.nextSlot, limit? := s.limit? },
        { s.modify number fun c => { c with nextId := c.nextId + 1 } with
          connection := { s.connection with
            outbound := s.connection.outbound ++ [.request (address c.nextId c.id r)] }
          correlator := (s.correlator.register c.id.key c.nextId).2 }) := by
  have hsend : (s.withNext number c).connection.send (.request (address c.nextId c.id r)) =
      .ok { s.connection with
        outbound := s.connection.outbound ++ [.request (address c.nextId c.id r)] } :=
    if_neg fun htrue => Bool.noConfusion (hconnection.symm.trans htrue)
  rw [sendOn_of_isOpen h hopen, enqueue, hsend]
  rfl

/-- On an open channel of a closed connection the request is struck out again. -/
theorem sendOn_of_closed (h : s.channel? number = some c) (hopen : c.isClosed = false)
    (hconnection : s.connection.closed = true) (r : Request) :
    s.sendOn number c.id r =
      (.error (.ofCause (.connectionIsClosed s.connection.id s.connection.peer)),
        { s.modify number fun c => { c with nextId := c.nextId + 1 } with
          correlator := ((s.correlator.register c.id.key c.nextId).2.forget c.id.key c.nextId).drop
            s.correlator.nextSlot }) := by
  have hsend : (s.withNext number c).connection.send (.request (address c.nextId c.id r)) =
      .error (.ofCause (.connectionIsClosed s.connection.id s.connection.peer)) :=
    if_pos hconnection
  rw [sendOn_of_isOpen h hopen, enqueue, hsend]
  rfl

theorem sendOn_cases (h : s.channel? number = some c) (r : Request) :
    SentOn s number c (s.sendOn number c.id r) := by
  cases hopen : c.isClosed with
  | true =>
      rw [sendOn_of_isClosed h hopen]
      exact .refused _ hopen
  | false =>
      cases hconnection : s.connection.closed with
      | true =>
          rw [sendOn_of_closed h hopen hconnection]
          exact .withdrawn _ _ hopen ⟨rfl, fun _ => rfl, id⟩ rfl
      | false =>
          rw [sendOn_eq h hopen hconnection]
          exact .queued _ _ hopen hconnection rfl rfl ⟨rfl, fun _ => rfl, id⟩ rfl

end sendOn

end Session

end MediaControl
