import MediaControl.Error
import MediaControl.Server.Call

/-!
# Server channels (SPEC_FULL §4.6)

A server's channel has one id and one set of handlers and serves any number of connections.  On each
connection the ids of its requests must increase.
-/

set_option autoImplicit false

namespace MediaControl

/-- What becomes of a message. -/
inductive Verdict where
  /-- it is no request -/
  | ignored
  /-- the server itself answers -/
  | rejected (response : Response)
  /-- a handler answers -/
  | accepted (call : Call)

/-- A channel of a server. -/
structure ServerChannel where
  id : ChannelId
  handlers : Handlers
  /-- the last request id, by connection -/
  lastIds : Table Nat Nat := {}

namespace ServerChannel

/-- The id exceeds every earlier one on the connection. -/
def isAdvance (c : ServerChannel) (connection id : Nat) : Bool :=
  match c.lastIds.get? connection with
  | some last => last < id
  | none => true

/-- Notes the id of a request. -/
def advance (c : ServerChannel) (connection id : Nat) : ServerChannel :=
  { c with lastIds := c.lastIds.insert connection id }

/-- The connection is gone, and the ids on it with it. -/
def disconnect (c : ServerChannel) (connection : Nat) : ServerChannel :=
  { c with lastIds := c.lastIds.erase connection }

/-- The answer of the server itself to a request on the channel. -/
def reject (c : ServerChannel) (r : Request) (status : Status) : Verdict :=
  .rejected (.new r.id status .complete c.id)

/-- The request names the channel with the right type of resource. -/
def isAddressedBy (c : ServerChannel) (r : Request) : Bool :=
  match Headers.channelId r.headers with
  | .ok id => id.resource = c.id.resource
  | .error _ => false

/-- What becomes of a request whose id is in order. -/
def judge (c : ServerChannel) (connection : Nat) (r : Request) : Verdict :=
  if c.isAddressedBy r then
    match c.handlers.get? r.method with
    | some handler => .accepted { connection, channel := c.id, request := r, handler }
    | none => c.reject r .methodNotAllowed
  else c.reject r .resourceNotAllocated

/-- A message comes in for the channel. -/
def receive (c : ServerChannel) (connection : Nat) : Message → ServerChannel × Verdict
  | .request r =>
    if c.isAdvance connection r.id then (c.advance connection r.id, c.judge connection r)
    else (c, c.reject r .nonMonotonicSequence)
  | _ => (c, .ignored)

end ServerChannel

end MediaControl
