import MediaControl.ChannelTable
import MediaControl.Connection
import MediaControl.Correlator

/-!
# Client sessions (SPEC_FULL §4.7)

A session opens channels on one connection.  Each channel numbers its requests from one on; answers
find their request through the session's correlator.  What answers no request goes to the channel's
listener, or waits for whoever asks for the channel's next event.
-/

set_option autoImplicit false

namespace MediaControl

/-- A channel of a session. -/
structure ClientChannel where
  id : ChannelId
  /-- what answered no request while nobody listened -/
  unsolicited : Mailbox Error Message := {}
  /-- who listens to what answers no request -/
  listener? : Option String := none
  isClosed : Bool := false
  /-- the id of the next request.  Ids are taken to be numbers without bound: that a counter of 64 bits
  begins again from zero behind the last of them is not considered. -/
  nextId : Nat := 1

/-- A request that was sent. -/
structure Pending where
  id : Nat
  slot : Nat
  /-- how long each wait for an answer may take, in milliseconds -/
  limit? : Option Nat := none
  deriving DecidableEq, Repr, Inhabited

/-- A connection of a client, and the channels opened on it. -/
structure Session where
  connection : Connection
  /-- the number of the open channel, by key -/
  table : ChannelTable Nat := {}
  /-- every channel that was opened, by number -/
  channels : List ClientChannel := []
  correlator : Correlator := {}
  /-- how long each wait for an answer may take, in milliseconds -/
  limit? : Option Nat := none

namespace Session

/-- The channel with the number. -/
def channel? (s : Session) (number : Nat) : Option ClientChannel := s.channels[number]?

/-- Changes the channel with the number. -/
def modify (s : Session) (number : Nat) (f : ClientChannel → ClientChannel) : Session :=
  { s with channels := s.channels.modify number f }

/-- Opens a channel, unless the connection is closed or the channel is open already; its number comes
with it. -/
def openChannel (s : Session) (id : ChannelId) : Except Error (Nat × Session) :=
  if s.connection.closed then .error (.ofCause (.cannotOpen id))
  else if (ChannelTable.lookup s.table id.key).isSome then .error (.ofCause (.alreadyOpen id))
  else
    let number := s.channels.length
    .ok (number, { s with
      table := ChannelTable.register s.table id number
      channels := s.channels ++ [{ id }] })

/-- Opens the channel that the text names. -/
def openNamed (s : Session) (text : String) : Except Error (Nat × Session) :=
  match ChannelId.parse text with
  | .ok id => s.openChannel id
  | .error reason => .error (.ofCause (.illegalHeader Catalogue.channelIdentifier text reason))

/-! ## Requests -/

/-- Takes the id of the next request on a channel. -/
def takeId (s : Session) (number : Nat) : Nat × Session :=
  (((s.channel? number).map ClientChannel.nextId).getD 0,
    s.modify number fun c => { c with nextId := c.nextId + 1 })

/-- The request under its id, with the channel named in it if it named none. -/
def address (id : Nat) (channel : ChannelId) (r : Request) : Request :=
  { r with id, headers := Headers.stampMissing r.headers channel }

/-- Enters a request with the correlator; the number of its slot comes with it. -/
def enter (s : Session) (channel : ChannelId) (id : Nat) : Nat × Session :=
  let (slot, correlator) := s.correlator.register channel.key id
  (slot, { s with correlator })

/-- Strikes a request out whose sending failed; nobody holds its slot. -/
def withdraw (s : Session) (channel : ChannelId) (id slot : Nat) : Session :=
  { s with correlator := (s.correlator.forget channel.key id).drop slot }

/-- Queues a request on the connection. -/
def enqueue (s : Session) (r : Request) : Except Error Session :=
  match s.connection.send (.request r) with
  | .ok connection => .ok { s with connection }
  | .error e => .error e

/-- The channel with the number is closed. -/
def isClosed (s : Session) (number : Nat) : Bool :=
  match s.channel? number with
  | some channel => channel.isClosed
  | none => true

/-- Queues a request that has been entered, unless the channel has been closed since.  A request that
is not queued is struck out. -/
def submit (s : Session) (number : Nat) (channel : ChannelId) (id slot : Nat) (r : Request) :
    Except Error Pending × Session :=
  if s.isClosed number then
    (.error (.ofCause (.channelIsClosed channel)), s.withdraw channel id slot)
  else
    match s.enqueue (address id channel r) with
    | .ok s => (.ok { id, slot, limit? := s.limit? }, s)
    | .error e => (.error e, s.withdraw channel id slot)

/-- Sends a request on a channel, unless the channel is closed: takes the next id, enters the request
under it and queues it. -/
def sendOn (s : Session) (number : Nat) (channel : ChannelId) (r : Request) :
    Except Error Pending × Session :=
  if s.isClosed number then (.error (.ofCause (.channelIsClosed channel)), s)
  else
    let (id, s) := s.takeId number
    let (slot, s) := s.enter channel id
    s.submit number channel id slot r

/-- Sends a request on the channel with the number.  There is nothing to be had from a channel that was
never opened. -/
def invoke? (s : Session) (number : Nat) (r : Request) :
    Option (Except Error Pending × Session) :=
  (s.channel? number).map fun channel => s.sendOn number channel.id r

/-- The answer to a request is no longer wanted. -/
def letGo (s : Session) (p : Pending) : Session :=
  { s with correlator := s.correlator.drop p.slot }

/-! ## What comes in -/

/-- A message that a listener was told of. -/
structure Heard where
  listener : String
  message : Message

/-- A message that answers no request of the channel. -/
def notify (s : Session) (number : Nat) (m : Message) : Session × Option Heard :=
  match (s.channel? number).bind ClientChannel.listener? with
  | some listener => (s, some ⟨listener, m⟩)
  | none => (s.modify number fun c => { c with unsolicited := c.unsolicited.put m }, none)

/-- A message comes in for a channel. -/
def deliver (s : Session) (number : Nat) (m : Message) : Session × Option Heard :=
  let (correlator, left) := s.correlator.handle m
  let s := { s with correlator }
  match left with
  | none => (s, none)
  | some m => s.notify number m

/-- A message comes in.  One that names no open channel is dropped. -/
def receive (s : Session) (m : Message) : Session × Option Heard :=
  match ChannelTable.route s.table m with
  | .ok number => s.deliver number m
  | .error _ => (s, none)

/-- Nothing comes for a channel any more: whoever waits is told why. -/
def endChannel (s : Session) (number : Nat) (key : String) (reason : Error) : Session :=
  let s := { s with correlator := s.correlator.failChannel key reason }
  s.modify number fun c => { c with unsolicited := c.unsolicited.fail (.closing reason) }

/-- The connection has stopped. -/
def stop (s : Session) (reason : Error) : Session :=
  s.table.rows.foldl (fun s row => s.endChannel row.2 row.1 reason) s

/-- Whoever waits after the connection has stopped is told so. -/
def failRest (s : Session) : Session :=
  { s with correlator := s.correlator.failAll (.stated .connectionClosed "connection closed") }

/-! ## Channels -/

/-- Closes a channel; closing it again changes nothing. -/
def closeChannel (s : Session) (number : Nat) : Session :=
  match s.channel? number with
  | none => s
  | some channel =>
    if channel.isClosed then s
    else
      let reason := Error.ofCause (.channelIsClosed channel.id)
      let s := s.modify number fun c => { c with isClosed := true }
      let s := { s with table := ChannelTable.unregister s.table channel.id.key }
      s.endChannel number channel.id.key reason

/-- The oldest thing that answered no request, and the session without it. -/
def takeEvent? (s : Session) (number : Nat) : Option (Except Error Message × Session) :=
  match (s.channel? number).bind fun c => c.unsolicited.take? with
  | some (item, unsolicited) => some (item, s.modify number fun c => { c with unsolicited })
  | none => none

/-- The values at the front of a line, up to its first failure, and what is behind them; the failure
itself is taken too. -/
def splitValues : List (Except Error Message) → List Message × List (Except Error Message)
  | [] => ([], [])
  | .error _ :: rest => ([], rest)
  | .ok m :: rest =>
    let (values, left) := splitValues rest
    (m :: values, left)

/-- Somebody listens to a channel from now on, and is told first of what has been waiting. -/
def listen (s : Session) (number : Nat) (listener : String) : Session × List Heard :=
  let waiting := ((s.channel? number).map fun c => c.unsolicited.items).getD []
  let (values, left) := splitValues waiting
  (s.modify number fun c => { c with listener? := some listener, unsolicited := ⟨left⟩ },
    values.map fun m => ⟨listener, m⟩)

/-- Nobody listens to a channel any more. -/
def unlisten (s : Session) (number : Nat) : Session :=
  s.modify number fun c => { c with listener? := none }

/-- The message waits somewhere in the session. -/
def keeps (s : Session) (m : Message) : Bool :=
  s.channels.any (fun c => c.unsolicited.contains m)
    || s.correlator.slots.values.any fun slot => slot.contains m

/-- Nobody holds the channel any more.  If it is closed, what waits at it goes with it; an open one
still takes what comes. -/
def abandonChannel (s : Session) (number : Nat) : Session :=
  s.modify number fun c => if c.isClosed then { c with unsolicited := {} } else c

/-- How many requests of a channel are outstanding. -/
def pendingOn (s : Session) (channel : ClientChannel) : Nat :=
  s.correlator.pendingOn channel.id.key

end Session

namespace Pending

/-- The request as a report shows it. -/
def report (p : Pending) (s : Session) : String :=
  s!"PendingRequest \x7b request_id: {Natural.text p.id}, queued: {s.correlator.queued p.slot} \x7d"

/-- What a wait for the response makes of what came. -/
def responseOf : Except Error Message → Except Error Response
  | .ok (.response r) => .ok r
  | .ok m => .error (.ofCause (.notAResponse m))
  | .error e => .error e

/-- What a wait for the completion makes of what came: nothing, if the completion has yet to come. -/
def completionOf : Except Error Message → Option (Except Error Message)
  | .error e => some (.error e)
  | .ok (.response r) =>
    match r.succeeded with
    | .error e => some (.error e)
    | .ok r => if r.state.isTerminal then some (.ok (.response r)) else none
  | .ok (.event e) => if e.state.isTerminal then some (.ok (.event e)) else none
  | .ok (.request _) => none

end Pending

end MediaControl
