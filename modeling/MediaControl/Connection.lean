import MediaControl.Error
import MediaControl.Wire.Encode
import MediaControl.Wire.Intake

/-!
# Connections (SPEC_FULL §4.3)

One end of a stream between two programs.  Bytes that arrive are read until they make messages;
messages to be sent are queued, then written.  A connection closes when its stream ends or breaks,
when a message cannot be written, or when it is told to; afterwards nothing can be queued on it.
-/

set_option autoImplicit false

namespace MediaControl

/-- One end of a stream. -/
structure Connection where
  /-- the number of the connection -/
  id : Nat
  /-- what the other end is called -/
  peer : String
  /-- the largest message that is read or written -/
  limit : Nat := Wire.defaultLimit
  /-- the bytes that have arrived and make no message yet -/
  intake : Wire.Intake := {}
  /-- the other end sends no more -/
  ended : Bool := false
  /-- the messages that are queued and not yet written, oldest first -/
  outbound : List Message := []
  closed : Bool := false
  /-- messages are still taken from the stream -/
  reading : Bool := true
  /-- messages are still written to the stream -/
  writing : Bool := true

namespace Connection

/-- Queues a message. -/
def send (c : Connection) (m : Message) : Except Error Connection :=
  if c.closed then .error (.ofCause (.connectionIsClosed c.id c.peer))
  else .ok { c with outbound := c.outbound ++ [m] }

/-- Closes the connection from this end. -/
def close (c : Connection) : Connection := { c with closed := true }

/-- Bytes arrive. -/
def receive (c : Connection) (bytes : Bytes) : Connection :=
  { c with intake := c.intake.receive bytes }

/-- The other end sends no more. -/
def endInput (c : Connection) : Connection := { c with ended := true }

/-- Why bytes that the other end sends do not arrive, if they do not.  To send none at all fails only
where nothing can be sent any more. -/
def deafness? (c : Connection) (bytes : Bytes) : Option String :=
  if c.ended then some "hung up"
  else if c.closed && !bytes.isEmpty then some "write failed"
  else none

/-- The other end sends bytes, which arrive if they still can. -/
def offer (c : Connection) (bytes : Bytes) : Connection :=
  if (c.deafness? bytes).isNone then c.receive bytes else c

/-- What came of taking the messages out of a connection. -/
structure Pumped (σ : Type) where
  /-- whoever was given the messages, in the order of their arrival -/
  state : σ
  /-- why there will be no more, if there will be no more -/
  stopped : Option Error
  intake : Wire.Intake

/-- Hands on every complete message of the connection.  Reading stops for good at bytes that make no
message, at the end of the stream, and when the connection was closed from this end; whoever reads
closes the connection then.  `isKept` says which messages the taker still keeps. -/
def pump {σ : Type} (c : Connection) (isKept : σ → Message → Bool) (hand : σ → Message → σ)
    (state : σ) : Pumped σ :=
  if c.reading then
    let taken := c.intake.takeAll c.limit c.ended isKept hand state
    let stopped := match taken.halt with
      | .fault fault => some (Error.framing fault)
      | .ended => some (.ofCause .peerClosed)
      | .waiting => if c.closed then some (.ofCause .closedLocally) else none
    { state := taken.state, stopped, intake := taken.intake }
  else { state, stopped := none, intake := c.intake }

/-- The connection after messages were taken out of it. -/
def afterPump {σ : Type} (c : Connection) (p : Pumped σ) : Connection :=
  { c with intake := p.intake, reading := c.reading && p.stopped.isNone }

/-- Writes messages behind the bytes already written, up to the first that is too large; says whether
there was none such. -/
def writeAll (limit : Nat) (written : Bytes) : List Message → Bytes × Bool
  | [] => (written, true)
  | m :: rest =>
    match Wire.encodeTo limit m written with
    | .ok written => writeAll limit written rest
    | .error _ => (written, false)

/-- Writes what is queued.  A message that is too large closes the connection, and nothing is written
after it; nor is anything written once the connection has closed and its queue is empty. -/
def write (c : Connection) : Bytes × Connection :=
  if c.writing then
    match writeAll c.limit [] c.outbound with
    | (written, true) => (written, { c with outbound := [], writing := !c.closed })
    | (written, false) => (written, { c with outbound := [], closed := true, writing := false })
  else ([], c)

end Connection

end MediaControl
