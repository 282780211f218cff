import MediaControl.ChannelTable
import MediaControl.Server.Channel

/-!
# Servers (SPEC_FULL §4.6)

A server hands each message to the channel that it names and answers a request that no channel takes
itself.
-/

set_option autoImplicit false

namespace MediaControl

/-- The open channels of a server. -/
structure Server where
  channels : ChannelTable ServerChannel := {}

namespace Server

/-- Opens a channel, in the place of one with its key. -/
def register (s : Server) (id : ChannelId) (handlers : Handlers) : Server :=
  { channels := ChannelTable.register s.channels id { id, handlers } }

/-- Closes the channel of that id. -/
def close (s : Server) (id : String) : Server :=
  { channels := ChannelTable.unregister s.channels id }

/-- A channel of that id is open. -/
def isOpen (s : Server) (id : String) : Bool := (ChannelTable.lookup s.channels id).isSome

/-- The answer to a request that no channel takes.  It names the channel as the request did. -/
def refusal (r : Request) : Unrouted → Response
  | .missing => { id := r.id, status := .mandatoryHeaderMissing, state := .complete }
  | .invalid _ =>
    { id := r.id, status := .illegalHeaderValue, state := .complete,
      headers := (Headers.get? r.headers Catalogue.channelIdentifier).toList }
  | .unknown channel =>
    { id := r.id, status := .resourceNotAllocated, state := .complete,
      headers := [channel.header] }

/-- What becomes of a message that no channel takes. -/
def refuse (reason : Unrouted) : Message → Verdict
  | .request r => .rejected (refusal r reason)
  | _ => .ignored

/-- A message comes in on a connection. -/
def receive (s : Server) (connection : Nat) (m : Message) : Server × Verdict :=
  match ChannelTable.route s.channels m with
  | .error reason => (s, refuse reason m)
  | .ok channel =>
    let (channel, verdict) := channel.receive connection m
    ({ channels := ChannelTable.register s.channels channel.id channel }, verdict)

/-- A connection is gone. -/
def disconnect (s : Server) (connection : Nat) : Server :=
  { channels := s.channels.map (·.disconnect connection) }

end Server

end MediaControl
