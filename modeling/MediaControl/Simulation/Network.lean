import MediaControl.Client.Session
import MediaControl.Server.Basic
import MediaControl.Simulation.Agenda

/-!
# Networks in virtual time (SPEC_FULL §5)

A server with its connections, the calls that its handlers are at work on and perhaps a session of a
client, which may be connected with the server.  Whatever happens is one task of an agenda: a
connection reads or writes, a handler starts, ends or reports an event.  Bytes written to a peer that
is not part of the network are set down, and so is what observers are told.
-/

set_option autoImplicit false

namespace MediaControl

/-- Something that happens in a network.  Connections and calls are named by their numbers. -/
inductive NetworkTask where
  | read (connection : Nat)
  | write (connection : Nat)
  /-- a handler is set to work -/
  | start (call : Nat)
  /-- the handler begins -/
  | serve (call : Nat)
  /-- the handler ends -/
  | finish (call : Nat)
  /-- the response is queued, and the events that it held up -/
  | answer (call : Nat)
  /-- an event is left to be reported in a while -/
  | promise (call delay : Nat) (event : Event)
  /-- an event is reported -/
  | report (call : Nat) (event : Event)
  /-- bytes arrive from a peer outside the network -/
  | arrive (connection : Nat) (bytes : Bytes)

/-- What observers are told. -/
inductive Notice where
  /-- a handler begins -/
  | served (call : Call)
  /-- an event could not be sent -/
  | lost (reason : Error)
  | heard (heard : Session.Heard)

/-- A server and perhaps a client. -/
structure Network where
  server : Server := {}
  /-- the server's connections -/
  lines : List Connection := []
  calls : List Call := []
  session? : Option Session := none
  /-- the connections at the two ends of a stream within the network -/
  joined? : Option (Nat × Nat) := none
  /-- what was written to peers outside, by connection, oldest first -/
  sent : List (Nat × Bytes) := []
  /-- what observers were told, oldest first -/
  notices : List Notice := []

namespace Network

/-- The connection at the other end of the stream, if it is part of the network. -/
def otherEnd? (n : Network) (id : Nat) : Option Nat :=
  match n.joined? with
  | some (a, b) => if id = a then some b else if id = b then some a else none
  | none => none

/-- The session's connection or one of the server's. -/
def connection? (n : Network) (id : Nat) : Option Connection :=
  match n.session? with
  | some s => if s.connection.id = id then some s.connection else n.lines.find? (·.id = id)
  | none => n.lines.find? (·.id = id)

/-- The connection is closed, or there is none. -/
def isClosed (n : Network) (id : Nat) : Bool := ((n.connection? id).map Connection.closed).getD true

/-- Why bytes that the peer of a connection sends do not arrive, if they do not. -/
def deafness? (n : Network) (id : Nat) (bytes : Bytes) : Option String :=
  (n.connection? id).bind fun c => c.deafness? bytes

/-- Changes a connection. -/
def modify (n : Network) (id : Nat) (f : Connection → Connection) : Network :=
  let change (c : Connection) : Connection := if c.id = id then f c else c
  { n with
    lines := n.lines.map change
    session? := n.session?.map fun s => { s with connection := change s.connection } }

/-- The connection is the session's. -/
def isClient (n : Network) (id : Nat) : Bool :=
  match n.session? with
  | some s => s.connection.id = id
  | none => false

/-- The session keeps a message that came in on its connection.  What a server keeps makes no
difference that anybody is told of. -/
def keeps (n : Network) (id : Nat) (m : Message) : Bool :=
  match n.session? with
  | some s => s.connection.id = id && s.keeps m
  | none => false

/-- Tells the observers. -/
def tell (n : Network) (notice : Notice) : Network := { n with notices := n.notices ++ [notice] }

end Network

/-- A network in virtual time. -/
abbrev TimedNetwork := Timed Network NetworkTask

namespace TimedNetwork

/-- Changes the network and leaves the agenda. -/
def change (t : TimedNetwork) (f : Network → Network) : TimedNetwork :=
  { t with state := f t.state }

/-- Enters a task that is due now. -/
def add (t : TimedNetwork) (task : NetworkTask) : TimedNetwork :=
  { t with agenda := t.agenda.add task }

/-- Enters a task that will be due in a while. -/
def after (t : TimedNetwork) (delay : Nat) (task : NetworkTask) : TimedNetwork :=
  { t with agenda := t.agenda.after delay task }

/-- The connection will look at what has arrived. -/
def wakeReader (t : TimedNetwork) (id : Nat) : TimedNetwork :=
  { t with agenda := t.agenda.addOnce (.read id) fun task =>
      match task with
      | .read other => other = id
      | _ => false }

/-- The connection will look at what is queued. -/
def wakeWriter (t : TimedNetwork) (id : Nat) : TimedNetwork :=
  { t with agenda := t.agenda.addOnce (.write id) fun task =>
      match task with
      | .write other => other = id
      | _ => false }

/-- Both sides of the connection will look about. -/
def wake (t : TimedNetwork) (id : Nat) : TimedNetwork := (t.wakeWriter id).wakeReader id

/-! ## Connections -/

/-- Queues a message on a connection. -/
def send (t : TimedNetwork) (id : Nat) (m : Message) : Except Error TimedNetwork :=
  match t.state.connection? id with
  | none => .ok t
  | some c =>
    match c.send m with
    | .ok c => .ok ((t.change fun n => n.modify id fun _ => c).wakeWriter id)
    | .error e => .error e

/-- Queues a message on a connection, if it is open. -/
def trySend (t : TimedNetwork) (id : Nat) (m : Message) : TimedNetwork :=
  match t.send id m with
  | .ok t => t
  | .error _ => t

/-- Closes a connection from its end. -/
def close (t : TimedNetwork) (id : Nat) : TimedNetwork :=
  (t.change fun n => n.modify id Connection.close).wake id

/-- Bytes arrive at a connection. -/
def receive (t : TimedNetwork) (id : Nat) (bytes : Bytes) : TimedNetwork :=
  (t.change fun n => n.modify id fun c => c.receive bytes).wakeReader id

/-- The other end of a connection sends no more. -/
def endInput (t : TimedNetwork) (id : Nat) : TimedNetwork :=
  (t.change fun n => n.modify id Connection.endInput).wakeReader id

/-- Bytes leave a connection. -/
def carry (t : TimedNetwork) (id : Nat) (bytes : Bytes) : TimedNetwork :=
  if bytes.isEmpty then t
  else match t.state.otherEnd? id with
    | some other => t.receive other bytes
    | none => t.change fun n => { n with sent := n.sent ++ [(id, bytes)] }

/-- Nothing more leaves a connection. -/
def endOutput (t : TimedNetwork) (id : Nat) : TimedNetwork :=
  match t.state.otherEnd? id with
  | some other => t.endInput other
  | none => t

/-- The connection writes what is queued. -/
def write (t : TimedNetwork) (id : Nat) : TimedNetwork :=
  match t.state.connection? id with
  | none => t
  | some c =>
    let (bytes, written) := c.write
    let t := (t.change fun n => n.modify id fun _ => written).carry id bytes
    let t := if c.writing && !written.writing then t.endOutput id else t
    if written.closed && !c.closed then t.wakeReader id else t

/-- A message comes in on a connection. -/
def take (id : Nat) (t : TimedNetwork) (m : Message) : TimedNetwork :=
  match t.state.session?, t.state.isClient id with
  | some session, true =>
    let (session, heard) := session.receive m
    t.change fun n =>
      { n with session? := some session, notices := n.notices ++ heard.toList.map .heard }
  | _, _ =>
    let (server, verdict) := t.state.server.receive id m
    let t := t.change fun n => { n with server }
    match verdict with
    | .ignored => t
    | .rejected r => t.trySend id (.response r)
    | .accepted call =>
      (t.change fun n => { n with calls := n.calls ++ [call] }).add
        (.start t.state.calls.length)

/-- The connection has stopped. -/
def stop (t : TimedNetwork) (id : Nat) (reason : Error) : TimedNetwork :=
  let t := (t.change fun n => n.modify id Connection.close).wakeWriter id
  t.change fun n =>
    if n.isClient id then { n with session? := n.session?.map (·.stop reason) }
    else { n with server := n.server.disconnect id }

/-- The connection reads what has arrived. -/
def read (t : TimedNetwork) (id : Nat) : TimedNetwork :=
  match t.state.connection? id with
  | none => t
  | some c =>
    let pumped := c.pump (fun t m => t.state.keeps id m) (take id) t
    let t := pumped.state.change fun n => n.modify id fun c => c.afterPump pumped
    match pumped.stopped with
    | some reason => t.stop id reason
    | none => t

/-! ## Calls -/

/-- Changes a call. -/
def modifyCall (t : TimedNetwork) (number : Nat) (call : Call) : TimedNetwork :=
  t.change fun n => { n with calls := n.calls.set number call }

/-- A handler reports an event. -/
def report (t : TimedNetwork) (number : Nat) (event : Event) : TimedNetwork :=
  match t.state.calls[number]? with
  | none => t
  | some call =>
    let (passing, admitted) := call.pass event
    let t := t.modifyCall number admitted
    match passing with
    | none => t
    | some e =>
      match t.send call.connection (.event e) with
      | .ok t => t
      | .error reason =>
        if call.plan.isWatched then t.change fun n => n.tell (.lost reason) else t

/-- A handler ends: what it will report later is left to be reported, and its response is set down. -/
def finish (t : TimedNetwork) (number : Nat) (call : Call) : TimedNetwork :=
  let plan := call.plan
  let t := t.modifyCall number { call with outcome := plan.outcome }
  let t :=
    if plan.outcome.isSome then
      plan.late.foldl (fun t late => t.add (.promise number late.1 late.2)) t
    else t
  t.add (.answer number)

/-- A handler begins, reports its early events, and ends at once or in a while. -/
def serve (t : TimedNetwork) (number : Nat) (call : Call) : TimedNetwork :=
  let plan := call.plan
  let t := if plan.isWatched then t.change fun n => n.tell (.served call) else t
  let t := plan.early.foldl (fun t event => t.report number event) t
  match plan.delay, t.state.calls[number]? with
  | 0, some call => t.finish number call
  | delay, _ => t.after delay (.finish number)

/-- The response is queued, and then the events that it held up. -/
def answer (t : TimedNetwork) (number : Nat) (call : Call) : TimedNetwork :=
  let t := t.trySend call.connection (.response call.response)
  let (passing, released) := call.release
  let t := t.modifyCall number released
  passing.foldl (fun t event => t.trySend call.connection (.event event)) t

/-- A task is done. -/
def perform (task : NetworkTask) (t : TimedNetwork) : TimedNetwork :=
  let withCall (number : Nat) (f : Call → TimedNetwork) : TimedNetwork :=
    match t.state.calls[number]? with
    | some call => f call
    | none => t
  match task with
  | .read id => t.read id
  | .write id => t.write id
  | .start number => t.add (.serve number)
  | .serve number => withCall number (t.serve number)
  | .finish number => withCall number (t.finish number)
  | .answer number => withCall number (t.answer number)
  | .promise number delay event =>
    if delay = 0 then t.report number event else t.after delay (.report number event)
  | .report number event => t.report number event
  | .arrive id bytes => t.receive id bytes

/-- The peer of a connection sends bytes, which arrive if they still can. -/
def offer (t : TimedNetwork) (id : Nat) (bytes : Bytes) : TimedNetwork :=
  (t.change fun n => n.modify id fun c => c.offer bytes).wakeReader id

/-- A client outside the network connects; its connection has the next number. -/
def connect (t : TimedNetwork) (peer : String) (limit : Nat) : Nat × TimedNetwork :=
  let id := t.state.lines.length + 1
  (id, (t.change fun n => { n with lines := n.lines ++ [{ id, peer, limit }] }).wake id)

/-- Lets time pass. -/
def rest (t : TimedNetwork) (delay : Nat) : TimedNetwork := Timed.rest perform delay t

/-- Does what is due by a moment that has come. -/
def advanceTo (t : TimedNetwork) (moment : Nat) : TimedNetwork :=
  let t := t.rest (moment + 1 - t.agenda.now)
  { t with agenda := { t.agenda with now := moment } }

/-- What was written to peers outside the network and what observers were told is taken away. -/
def collect (t : TimedNetwork) : List (Nat × Bytes) × List Notice × TimedNetwork :=
  (t.state.sent, t.state.notices, t.change fun n => { n with sent := [], notices := [] })

/-- The bytes that were written to the peer of a connection. -/
def bytesTo (id : Nat) (sent : List (Nat × Bytes)) : Bytes :=
  (sent.filter fun entry => entry.1 = id).flatMap Prod.snd

end TimedNetwork

end MediaControl
