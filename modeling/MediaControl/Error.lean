import MediaControl.Message
import MediaControl.Wire.Fault

/-!
# Errors (SPEC_FULL §7)

Why an operation failed.  A cause says what happened; its kind, its words and what it carries -- the
response behind a failed request, the text behind an illegal header -- follow from it.  An error may
have the words of a deeper reason attached.
-/

set_option autoImplicit false

namespace MediaControl

/-- What sort of trouble an error is. -/
inductive ErrorKind where
  /-- the bytes on the wire form no message -/
  | framing
  /-- a header stands for no value -/
  | headerValue
  /-- the server answered with a status that is no success -/
  | invocation
  /-- a message came where none such was expected -/
  | protocolViolation
  | transport
  | connectionClosed
  | timeout
  | config
  deriving DecidableEq, Repr, Inhabited

namespace ErrorKind

/-- The kind in words. -/
def text : ErrorKind → String
  | framing => "framing"
  | headerValue => "header value"
  | invocation => "invocation"
  | protocolViolation => "protocol violation"
  | transport => "transport"
  | connectionClosed => "connection closed"
  | timeout => "timeout"
  | config => "config"

/-- Every kind. -/
def all : List ErrorKind :=
  [framing, headerValue, invocation, protocolViolation, transport, connectionClosed, timeout, config]

/-- The kind with these words. -/
def read? (words : String) : Option ErrorKind := all.find? fun kind => kind.text == words

/-- Nothing more can be done on the connection. -/
def isFatal : ErrorKind → Bool
  | framing | transport | connectionClosed => true
  | _ => false

end ErrorKind

/-- What happened. -/
inductive Cause where
  /-- the bytes on the wire form no message -/
  | framing (fault : Wire.Fault)
  /-- a header's text was refused -/
  | illegalHeader (name raw : String) (reason : IllegalValue)
  /-- the request failed -/
  | failedRequest (response : Response)
  /-- a message does not name its channel -/
  | noChannelIdentifier
  /-- a message names a channel that nobody registered -/
  | unregisteredChannel (channel : ChannelId)
  /-- another message than a response came first -/
  | notAResponse (message : Message)
  /-- a device failed, in its own words -/
  | device (message : String)
  /-- no connection could be made to the address -/
  | unreachable (address : String)
  | peerClosed
  | closedLocally
  | connectionIsClosed (id : Nat) (peer : String)
  | channelIsClosed (channel : ChannelId)
  | cannotOpen (channel : ChannelId)
  | alreadyOpen (channel : ChannelId)
  | noEventWithin (limit : String)
  | requestTimedOut (id : Nat) (limit : String)
  | connectTimedOut (address limit : String)
  /-- trouble of the given kind, in the given words -/
  | stated (kind : ErrorKind) (message : String)

namespace Cause

/-- What sort of trouble it is. -/
def kind : Cause → ErrorKind
  | framing _ => .framing
  | illegalHeader .. => .headerValue
  | failedRequest _ => .invocation
  | noChannelIdentifier | unregisteredChannel _ | notAResponse _ => .protocolViolation
  | device _ | unreachable _ => .transport
  | peerClosed | closedLocally | connectionIsClosed .. | channelIsClosed _ | cannotOpen _ =>
    .connectionClosed
  | alreadyOpen _ => .config
  | noEventWithin _ | requestTimedOut .. | connectTimedOut .. => .timeout
  | stated kind _ => kind

/-- What happened, in words. -/
def message : Cause → String
  | framing fault => fault.message
  | illegalHeader name raw reason =>
    s!"illegal value for {name}: {Text.quoted raw} ({reason.message})"
  | failedRequest response =>
    s!"MRCPv2 Status Code: {response.status.code} [" ++
      response.status.description?.getD "null" ++ "]"
  | noChannelIdentifier => "message has no Channel-Identifier header"
  | unregisteredChannel channel => s!"no channel registered for {channel.wire}"
  | notAResponse message => s!"expected a response, got {message.summary}"
  | device message => s!"I/O error: {message}"
  | unreachable address => s!"failed to connect to {Text.quoted address}"
  | peerClosed => "peer closed the connection"
  | closedLocally => "connection closed locally"
  | connectionIsClosed id peer => s!"connection {id} to {peer} is closed"
  | channelIsClosed channel => s!"channel {channel.wire} is closed"
  | cannotOpen channel => s!"cannot open {channel.wire}: connection is closed"
  | alreadyOpen channel => s!"channel {channel.wire} is already open"
  | noEventWithin limit => s!"no event within {limit}"
  | requestTimedOut id limit => s!"request {id} timed out after {limit}"
  | connectTimedOut address limit => s!"connecting to {Text.quoted address} timed out after {limit}"
  | stated _ message => message

/-- The response behind a failed request. -/
def response? : Cause → Option Response
  | failedRequest response => some response
  | _ => none

/-- The text behind an illegal header. -/
def raw? : Cause → Option String
  | illegalHeader _ raw _ => some raw
  | _ => none

/-- The words of the reason behind the cause. -/
def reason? : Cause → Option String
  | framing fault => fault.reason?
  | device message => some message
  | _ => none

end Cause

/-- Why an operation failed. -/
structure Error where
  cause : Cause
  /-- the words of a deeper reason -/
  attached : Option String := none

namespace Error

/-- The error with nothing attached. -/
def ofCause (cause : Cause) : Error := { cause }

/-- An error of the given kind in the given words. -/
def stated (kind : ErrorKind) (message : String) : Error := { cause := .stated kind message }

/-- The bytes on the wire form no message. -/
def framing (fault : Wire.Fault) : Error := { cause := .framing fault }

/-- What sort of trouble it is. -/
def kind (e : Error) : ErrorKind := e.cause.kind

@[simp] theorem kind_framing (fault : Wire.Fault) : (framing fault).kind = .framing := rfl

/-- What happened, in words. -/
def message (e : Error) : String := e.cause.message

/-- Nothing more can be done on the connection. -/
def isFatal (e : Error) : Bool := e.kind.isFatal

/-- The words of the reason behind the error. -/
def reason? (e : Error) : Option String := e.attached.or e.cause.reason?

/-- The same error with the words of another reason. -/
def withReason (e : Error) (reason : String) : Error := { e with attached := some reason }

/-- The failure that reaches those who waited when something closed, told why. -/
def closing (reason : Error) : Error := stated .connectionClosed reason.message

end Error

/-- What the header stands for, or why it stands for nothing. -/
def Header.value (h : Header) : Except Error HeaderValue :=
  match h.resolve with
  | .ok value => .ok value
  | .error reason => .error (.ofCause (.illegalHeader h.name h.raw reason))

/-- The channel that the first header of that purpose names. -/
def Headers.channelId (hs : Headers) : Except Error ChannelId :=
  match Headers.get? hs Catalogue.channelIdentifier with
  | none => .error (.ofCause .noChannelIdentifier)
  | some h =>
    match h.value with
    | .ok (.channel id) => .ok id
    | .ok other =>
      .error (.ofCause (.illegalHeader h.name h.raw (.stated ("resolved to " ++ other.describe))))
    | .error e => .error e

/-- The channel that the message names. -/
def Message.channelId (m : Message) : Except Error ChannelId := m.headers.channelId

/-- The response, if its status is a success. -/
def Response.succeeded (r : Response) : Except Error Response :=
  if r.status.isSuccess then .ok r else .error (.ofCause (.failedRequest r))

end MediaControl
