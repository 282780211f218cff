import MediaControl.Proofs.Client.History
import MediaControl.Proofs.Service.Basic
import MediaControl.Proofs.Wire.Written

/-!
# Dialogues

A session and a server in service at the two ends of a stream that loses nothing and changes no order.
Each side writes the messages that it has queued as bytes, reads the bytes of the other side as they come
and takes the messages out of them, and stops at bytes that make no message and when a message of its own
is beyond its limit.  In between, handlers return, tasks that they left behind report their events, and
the server queues responses and lets events go.  All of this goes on side by side, in any order.

The server's channels have demonstration handlers and stay open.  The session opens channels that are open
at the server with the same type of resource, and closes none; whoever sends a request keeps it.
-/

set_option autoImplicit false

namespace MediaControl

/-! ## What is said -/

/-- What an answer says to a request, its channel and id apart. -/
inductive Report where
  | response (status : Status) (state : RequestState)
  | event (name : EventName) (state : RequestState)
  deriving DecidableEq

/-- What a message says to a request, if it answers one. -/
def Message.report? : Message → Option Report
  | request _ => none
  | response r => some (.response r.status r.state)
  | event e => some (.event e.name e.state)

/-- What a request for the method is told in all: that the method is not allowed, if the resource does
not know it; that it succeeded; or that it goes on, and later that it is complete. -/
def Method.reports (m : Method) (resource : Resource) : List Report :=
  if m.isValidFor resource then
    match m.completionEvent? with
    | none => [.response ⟨200⟩ .complete]
    | some name => [.response ⟨200⟩ .inProgress, .event name .complete]
  else [.response ⟨401⟩ .complete]

/-- The request names no channel, or its line names this one. -/
def Request.isFor (r : Request) (id : ChannelId) : Bool :=
  match Headers.get? r.headers Catalogue.channelIdentifier with
  | none => true
  | some h =>
    match h.plain.value with
    | .ok (.channel named) => named == id
    | _ => false

/-- The lines of the message name the channel of the key, and it has the id of the key. -/
def Message.isAbout (key : String × Nat) (m : Message) : Bool :=
  match m.plain.channelId with
  | .ok channel => decide ((channel.key, m.id) = key)
  | .error _ => false

theorem Message.isAbout_iff {key : String × Nat} {m : Message} :
    m.isAbout key = true ↔ ∃ channel, m.plain.channelId = .ok channel ∧ (channel.key, m.id) = key := by
  unfold isAbout
  cases m.plain.channelId with
  | error reason => simp
  | ok channel => simp

theorem Message.eq_of_isAbout {key other : String × Nat} {m : Message} (h : m.isAbout key = true)
    (hother : m.isAbout other = true) : key = other := by
  obtain ⟨channel, hchannel, hkey⟩ := isAbout_iff.mp h
  obtain ⟨channel', hchannel', hkey'⟩ := isAbout_iff.mp hother
  cases hchannel.symm.trans hchannel'
  exact hkey.symm.trans hkey'

@[simp] theorem Message.id_plain (m : Message) : m.plain.id = m.id := by
  cases m <;> rfl

/-- The key of the channel can be told from its line: there is no `@` in it, and no line ends in it. -/
def ChannelId.isClear (id : ChannelId) : Bool :=
  !id.key.toList.contains '@' && !id.key.toList.contains '\n'

/-! ## States and steps -/

/-- A request that was sent: the channel, the request as it was queued, and what the sender holds. -/
structure Asked where
  channel : ChannelId
  request : Request
  pending : Pending

namespace Asked

/-- The key of the request. -/
def key (a : Asked) : String × Nat := (a.channel.key, a.pending.id)

/-- The request as the session's own past has it. -/
def sent (a : Asked) : Session.Sent := ⟨a.channel.key, a.pending⟩

/-- The request as a message. -/
def message (a : Asked) : Message := .request a.request

/-- The next request on a channel of a session. -/
def next (s : Session) (c : ClientChannel) (r : Request) : Asked where
  channel := c.id
  request := Session.address c.nextId c.id r
  pending := { id := c.nextId, slot := s.correlator.nextSlot, limit? := s.limit? }

/-- All that a demonstration sends for the request. -/
def answers (a : Asked) : List Message :=
  let response (code : Nat) (state : RequestState) : Message :=
    .response (.new a.pending.id ⟨code⟩ state a.channel)
  if a.request.method.isValidFor a.channel.resource then
    match a.request.method.completionEvent? with
    | none => [response 200 .complete]
    | some name =>
      [response 200 .inProgress, .event (Demo.completion name a.channel a.pending.id)]
  else [response 401 .complete]

/-- The request and all that is sent for it keep to the limits of the two ends, and a reader makes of the
bytes of the request one request, with its method and id, that names its channel. -/
structure Travels (clientLimit serverLimit : Nat) (a : Asked) : Prop where
  length_le : a.message.encode.length ≤ clientLimit
  arrives : ∃ r : Request, Wire.drain serverLimit false a.message.encode = ⟨[.request r], .waiting, []⟩ ∧
    r.method = a.request.method ∧ r.id = a.request.id ∧
    ∃ named, Headers.channelId r.headers = .ok named ∧ (named == a.channel) = true
  answers_le : ∀ m ∈ a.answers, m.encode.length ≤ clientLimit ∧ m.encode.length ≤ serverLimit

end Asked

/-- A session and a server at the two ends of a stream, and their past. -/
structure Dialogue where
  client : Session.History
  /-- the server, whose connection with the number zero is the other end of the stream -/
  service : Service
  /-- the requests that were sent, oldest first -/
  asked : List Asked := []
  /-- what listeners were told -/
  heard : List Session.Heard := []

namespace Dialogue

/-- What is asked of the session. -/
inductive Deed where
  | openChannel (id : ChannelId)
  /-- a request is sent on the channel with the number -/
  | invoke (number : Nat) (r : Request)
  /-- whoever sent a request takes what has come for it -/
  | take (p : Pending)
  | listen (number : Nat) (listener : String)
  | unlisten (number : Nat)
  | takeEvent (number : Nat)

/-- What the two sides do of themselves. -/
inductive Move where
  /-- the session's writer writes the oldest message that is queued -/
  | write
  /-- the session's writer notices that the connection has closed -/
  | quit
  /-- the session's reader reads the next bytes, so many at most -/
  | read (size : Nat)
  /-- the session's reader looks for a message in what it has read -/
  | look
  /-- the session's reader notices that the connection has closed -/
  | notice
  /-- the server does something -/
  | serve (m : Service.Move)

/-- What can happen in a dialogue. -/
inductive Op where
  | deed (d : Deed)
  | move (m : Move)

/-- Two ends of a stream, with the largest message that each reads or writes, and a server with these
channels. -/
def start (channels : List ChannelId) (clientLimit serverLimit : Nat) : Dialogue where
  client := { session := { connection := { id := 0, peer := "server", limit := clientLimit } } }
  service := Service.start channels [("client", serverLimit)]

/-- The session's connection. -/
def line (d : Dialogue) : Connection := d.client.session.connection

/-- The channel is open at the server with that type of resource. -/
def isServed (d : Dialogue) (id : ChannelId) : Bool :=
  (d.service.history.server.channels.get? id.key).any fun c => c.id.resource = id.resource

/-- The session does something. -/
def act (d : Dialogue) (op : Session.Op) : Dialogue := { d with client := d.client.step op }

/-- The session's connection reads, writes or closes. -/
def transport (d : Dialogue) (connection : Connection) : Dialogue := d.act (.transport connection)

/-- A request is sent. -/
def invoke (d : Dialogue) (number : Nat) (r : Request) : Dialogue :=
  match d.client.session.channel? number with
  | none => d
  | some c =>
    match (d.client.session.sendOn number c.id r).1 with
    | .ok p =>
      { d.act (.invoke number r) with
        asked := d.asked ++ [⟨c.id, Session.address p.id c.id r, p⟩] }
    | .error _ => d.act (.invoke number r)

/-! ### The server's end -/

/-- What the server has written, oldest first. -/
def written (s : Service) : List Message := ((s.history.lines[0]?).map Server.Line.written).getD []

/-- The server goes on writing. -/
def isWriting (s : Service) : Bool := (s.connection? 0).any Connection.writing

/-- The session's connection when the server has come from one state to another: what the server has
written in between has arrived, and if it does not go on writing, no more will. -/
def carry (c : Connection) (before after : Service) : Connection :=
  let c := c.offer (((written after).drop (written before).length).flatMap Message.encode)
  if isWriting after then c else c.endInput

/-- Something happens to the server. -/
def serve (d : Dialogue) (op : Service.Op) : Dialogue :=
  let service := d.service.step op
  { d.transport (carry d.line d.service service) with service }

/-! ### The session's end -/

/-- The session's writer writes the oldest message that is queued.  A message that is too large closes
the connection, and nothing is written any more. -/
def write (d : Dialogue) : Dialogue :=
  if d.line.writing then
    match d.line.outbound with
    | [] => d
    | m :: rest =>
      match Wire.encodeTo d.line.limit m [] with
      | .ok bytes =>
        (d.transport { d.line with outbound := rest }).serve (.deed (.send 0 bytes))
      | .error _ => (d.transport d.line.giveUp).serve (.deed (.hangUp 0))
  else d

/-- The session's writer stops when the connection has closed. -/
def quit (d : Dialogue) : Dialogue :=
  if d.line.closed && d.line.writing then
    (d.transport d.line.quit).serve (.deed (.hangUp 0))
  else d

/-- The session's reader stops for good. -/
def stop (d : Dialogue) (reason : Error) : Dialogue :=
  (d.transport { d.line with reading := false }).act (.stop reason)

/-- A message comes in at the session. -/
def receive (d : Dialogue) (m : Message) : Dialogue :=
  { d.act (.receive m) with heard := d.heard ++ (d.client.session.receive m).2.toList }

/-- The session's reader looks for a message in what it has read.  It stops at bytes that make no message
and at the end of the stream. -/
def look (d : Dialogue) : Dialogue :=
  if d.line.reading then
    match Wire.takeFirst d.line.limit d.line.isDone d.line.intake.buffer with
    | (.ok (some m), rest) => (d.transport (d.line.leave rest)).receive m
    | (.ok none, rest) =>
      if d.line.isDone then d.stop (.ofCause .peerClosed) else d.transport (d.line.leave rest)
    | (.error fault, _) => d.stop (.framing fault)
  else d

/-- The session's reader stops when the connection has closed. -/
def notice (d : Dialogue) : Dialogue :=
  if d.line.closed && d.line.reading then d.stop (.ofCause .closedLocally) else d

/-! ### Steps -/

/-- Something is asked of the session. -/
def suffer (d : Dialogue) : Deed → Dialogue
  | .openChannel id => if id.isClear && d.isServed id then d.act (.openChannel id) else d
  | .invoke number r => d.invoke number r
  | .take p => d.act (.take p)
  | .listen number listener =>
    { d.act (.listen number listener) with
      heard := d.heard ++ (d.client.session.listen number listener).2 }
  | .unlisten number => d.act (.unlisten number)
  | .takeEvent number => d.act (.takeEvent number)

/-- One of the two sides does something of itself. -/
def move (d : Dialogue) : Move → Dialogue
  | .write => d.write
  | .quit => d.quit
  | .read size => d.transport (d.line.readSome size)
  | .look => d.look
  | .notice => d.notice
  | .serve m => d.serve (.move m)

/-- One thing that happens. -/
def step (d : Dialogue) : Op → Dialogue
  | .deed deed => d.suffer deed
  | .move m => d.move m

/-- What happens, first to last. -/
def run (d : Dialogue) (ops : List Op) : Dialogue := ops.foldl step d

/-- No step is left that either side takes of itself. -/
def IsQuiet (d : Dialogue) : Prop := ∀ m, d.move m = d

/-- What has come for the request says this to it, under its id and on its channel. -/
def IsTold (d : Dialogue) (a : Asked) (reports : List Report) : Prop :=
  ∃ ms : List Message, d.client.received a.pending.slot = ms.map .ok ∧
    ms.map Message.report? = reports.map some ∧
    ∀ m ∈ ms, m.id = a.pending.id ∧
      ∃ channel, m.channelId = .ok channel ∧ (channel == a.channel) = true

end Dialogue

end MediaControl
