import MediaControl.Address
import MediaControl.Server.Basic
import MediaControl.Server.Error
import MediaControl.Wire.Decode

/-!
# Opening channels on a server (SPEC_FULL §4.6, §9)

A channel is opened for handlers of its own resource type, and only once until it is closed.
-/

set_option autoImplicit false

namespace MediaControl

/-- The port that is registered for the protocol. -/
def defaultPort : Nat := 1544

/-- How a server is set up. -/
structure ServerConfig where
  /-- where it listens -/
  bind : SocketAddress := ⟨.v4 [127, 0, 0, 1], defaultPort⟩
  /-- how many connections it serves at a time -/
  maxConnections : Nat := 100
  /-- the largest message that it reads or writes -/
  maxMessageSize : Nat := Wire.defaultLimit
  deriving Repr

namespace Server

/-- A server without channels. -/
def start (config : ServerConfig) : Except ServerError Server :=
  if config.maxConnections = 0 then .error (.config "max_connections must be at least 1")
  else .ok {}

/-- Opens a channel. -/
def openChannel (s : Server) (id : ChannelId) (handlers : Handlers) : Except ServerError Server :=
  if handlers.resource ≠ id.resource then
    .error (.resourceMismatch id.wire handlers.resource.wire)
  else if s.isOpen id.key then .error (.channelInUse id.wire)
  else .ok (s.register id handlers)

/-- Opens the channel that the text names. -/
def openNamed (s : Server) (text : String) (handlers : Handlers) :
    Except ServerError (ChannelId × Server) :=
  match ChannelId.parse text with
  | .error reason => .error (.invalidChannel text reason.message)
  | .ok id => do return (id, ← s.openChannel id handlers)

end Server

end MediaControl
