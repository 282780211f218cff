import MediaControl.Proofs.Server.History
import MediaControl.Server.Demo

/-!
# Services

A server in service.  Bytes come in on any number of connections.  On each of them a reader takes the
messages out of what has come in, one at a time, and hands them to the server, and a writer writes what
the server has queued.  Meanwhile handlers return, tasks that they left behind report their events, and
the server queues responses and lets events go.  All of this goes on side by side, in any order.

The channels have demonstration handlers, and stay open.
-/

set_option autoImplicit false

namespace MediaControl

/-! ## What a connection does -/

namespace Connection

/-- The reader reads the next bytes that have arrived, so many at most. -/
def readSome (c : Connection) (size : Nat) : Connection :=
  if c.reading && !c.intake.arrived.isEmpty then
    { c with intake := { c.intake with size := c.intake.filled + size }.read }
  else c

/-- All but `rest` has been taken out of the buffer. -/
def leave (c : Connection) (rest : Bytes) : Connection := { c with intake := c.intake.leave rest }

/-- Everything that the other end has sent, and will send, has been read. -/
def isDone (c : Connection) : Bool := c.ended && c.intake.arrived.isEmpty

/-- The message was beyond the limit: the connection closes, and nothing is written any more. -/
def giveUp (c : Connection) : Connection := { c with closed := true, writing := false }

/-- Nothing is left to be read, taken or written on the connection, and it is as it is on both sides. -/
def isIdle (c : Connection) : Bool :=
  (!c.reading || !c.closed && !c.isDone && c.intake.arrived.isEmpty &&
      match Wire.takeFirst c.limit c.isDone c.intake.buffer with
      | (.ok none, rest) => rest = c.intake.buffer
      | _ => false) &&
    (!c.writing || !c.closed && c.outbound.isEmpty)

/-- Nothing is written any more. -/
def quit (c : Connection) : Connection := { c with writing := false }

end Connection

/-! ## States and steps -/

/-- A server with its connections and handlers, and its past. -/
structure Service where
  history : Server.History := {}
  /-- the events that handlers left to be reported, and the requests that they are for -/
  tasks : List (Nat × Event) := []
  /-- the requests that came in, by number, and the connections on which they came -/
  log : List (Nat × Request) := []

namespace Service

/-- What others do. -/
inductive Deed where
  | connect (peer : String) (limit : Nat)
  /-- the other end of a connection sends bytes -/
  | send (connection : Nat) (bytes : Bytes)
  /-- the other end sends no more -/
  | hangUp (connection : Nat)
  /-- a connection breaks -/
  | cut (connection : Nat)

/-- What a service does of itself. -/
inductive Move where
  /-- the reader of a connection reads the next bytes, so many at most -/
  | read (connection size : Nat)
  /-- the reader looks for a message in what it has read -/
  | take (connection : Nat)
  /-- the reader notices that the connection has closed -/
  | notice (connection : Nat)
  /-- the writer writes the oldest message that is queued -/
  | write (connection : Nat)
  /-- the writer notices that the connection has closed -/
  | quit (connection : Nat)
  /-- the handler of a request returns -/
  | finish (request : Nat)
  /-- a task that a handler left behind reports its event -/
  | complete (task : Nat)
  /-- the response to a request is queued -/
  | answer (request : Nat)
  /-- the events that were held up behind a response are let go -/
  | release (request : Nat)

/-- What can happen to a service. -/
inductive Op where
  | deed (d : Deed)
  | move (m : Move)

/-- The events that the handler of a request leaves to be reported, if there is one. -/
def leftBy (server : Server.History) (request : Nat) : List (Nat × Event) :=
  match server.calls.get? request with
  | some w => w.call.plan.late.map fun late => (request, late.2)
  | none => []

/-- Channels are opened with demonstration handlers, and then connections are made. -/
def opening (channels : List ChannelId) (connections : List (String × Nat)) : List Server.Op :=
  channels.map (fun id => .openChannel id (Demo.handlers id.resource)) ++
    connections.map fun c => .connect c.1 c.2

/-- A service with these channels, to which connections were made. -/
def start (channels : List ChannelId) (connections : List (String × Nat)) : Service where
  history := Server.History.run {} (opening channels connections)

/-- The connection with the number. -/
def connection? (s : Service) (connection : Nat) : Option Connection :=
  (s.history.lines[connection]?).map Server.Line.connection

/-- Something happens to a connection. -/
def change (s : Service) (connection : Nat) (f : Connection → Connection) : Service :=
  { s with
    history :=
      { s.history with
        lines := s.history.lines.modify connection fun l => { l with connection := f l.connection } } }

/-- Something happens to the server that concerns no handler. -/
def pass (s : Service) (op : Server.Op) : Service := { s with history := s.history.step op }

/-- A message comes in on a connection. -/
def receive (s : Service) (connection : Nat) (m : Message) : Service :=
  let history := s.history.step (.receive connection m)
  { history
    tasks := s.tasks ++ leftBy history s.history.asked
    log :=
      match m with
      | .request r => s.log ++ [(connection, r)]
      | _ => s.log }

/-- The reader of a connection looks for a message in what it has read.  It stops for good at bytes
that make no message and at the end of the stream. -/
def take (s : Service) (connection : Nat) : Service :=
  match s.connection? connection with
  | none => s
  | some c =>
    if c.reading then
      match Wire.takeFirst c.limit c.isDone c.intake.buffer with
      | (.ok (some m), rest) => (s.change connection fun c => c.leave rest).receive connection m
      | (.ok none, rest) =>
        if c.isDone then s.pass (.disconnect connection)
        else s.change connection fun c => c.leave rest
      | (.error _, _) => s.pass (.disconnect connection)
    else s

/-- The writer of a connection writes the oldest message that is queued.  A message that is too large
closes the connection. -/
def write (s : Service) (connection : Nat) : Service :=
  match s.connection? connection with
  | none => s
  | some c =>
    if c.writing then
      match c.outbound with
      | [] => s
      | m :: _ =>
        match Wire.encodeTo c.limit m [] with
        | .ok _ => s.pass (.drain connection)
        | .error _ => s.change connection Connection.giveUp
    else s

/-- The reader of a connection that has closed stops. -/
def notice (s : Service) (connection : Nat) : Service :=
  match s.connection? connection with
  | none => s
  | some c => if c.closed && c.reading then s.pass (.disconnect connection) else s

/-- The writer of a connection that has closed stops. -/
def quit (s : Service) (connection : Nat) : Service :=
  match s.connection? connection with
  | none => s
  | some c => if c.closed && c.writing then s.change connection Connection.quit else s

/-- A call that has come so far has its turn. -/
def turn (s : Service) (request : Nat) (stage : Server.Stage) (t : Call → Server.Turn) : Service :=
  match s.history.calls.get? request with
  | none => s
  | some w => if w.stage = stage then s.pass (.turn request (t w.call)) else s

/-- A task that a handler left behind reports its event. -/
def complete (s : Service) (task : Nat) : Service :=
  match s.tasks[task]? with
  | none => s
  | some (request, e) =>
    { s.pass (.turn request (.report e)) with tasks := s.tasks.eraseIdx task }

/-- Others do something. -/
def suffer (s : Service) : Deed → Service
  | .connect peer limit => s.pass (.connect peer limit)
  | .send connection bytes => s.change connection fun c => c.offer bytes
  | .hangUp connection => s.change connection Connection.endInput
  | .cut connection => s.change connection Connection.close

/-- The service does something of itself. -/
def move (s : Service) : Move → Service
  | .read connection size => s.change connection fun c => c.readSome size
  | .take connection => s.take connection
  | .notice connection => s.notice connection
  | .write connection => s.write connection
  | .quit connection => s.quit connection
  | .finish request => s.turn request .working fun call => .finish call.plan.outcome
  | .complete task => s.complete task
  | .answer request => s.turn request .ended fun _ => .answer
  | .release request => s.turn request .answered fun _ => .release

/-- One thing that happens. -/
def step (s : Service) : Op → Service
  | .deed d => s.suffer d
  | .move m => s.move m

/-- What happens, first to last. -/
def run (s : Service) (ops : List Op) : Service := ops.foldl step s

/-- No step is left. -/
def IsQuiet (s : Service) : Prop := ∀ m, s.move m = s

/-- Whether it can be seen from every part of the service that no step is left. -/
def isIdle (s : Service) : Bool :=
  s.tasks.isEmpty && s.history.lines.all (fun l => l.connection.isIdle) &&
    s.history.calls.values.all fun w => w.stage = .released

/-! ## What is seen of a connection -/

/-- What is sent on the connection. -/
def bytesOn (connection : Nat) (ops : List Op) : Bytes :=
  ops.flatMap fun
    | .deed (.send other bytes) => if other = connection then bytes else []
    | _ => []

/-- It is not the end of the connection. -/
def Op.spares (connection : Nat) : Op → Bool
  | .deed (.hangUp other) | .deed (.cut other) => other ≠ connection
  | _ => true

/-- The connection has not closed. -/
def isOpen (s : Service) (connection : Nat) : Bool :=
  (s.connection? connection).any fun c => !c.closed

/-- What is queued on the connection and not yet written. -/
def unwritten (s : Service) (connection : Nat) : List Message :=
  ((s.connection? connection).map Connection.outbound).getD []

/-- The requests that came in on the connection. -/
def requestsOn (s : Service) (connection : Nat) : List Request :=
  (s.log.filter fun entry => entry.1 = connection).map Prod.snd

/-- The requests that came in on the connection, each with what was queued for it: its response and its
events. -/
def answersOn (s : Service) (connection : Nat) : List (Request × List Message) :=
  (s.log.zipIdx.filter fun entry => entry.1.1 = connection).map fun ((_, r), n) =>
    (r, s.history.queuedFor n)

/-- The channel of that key would accept the id of a next request on the connection; there may be no
such channel. -/
def accepts? (s : Service) (connection : Nat) (key : String) (id : Nat) : Option Bool :=
  (s.history.server.channels.get? key).map fun c => c.isAdvance connection id

end Service

end MediaControl
