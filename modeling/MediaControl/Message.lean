import MediaControl.EventName
import MediaControl.Header.Basic
import MediaControl.RequestState
import MediaControl.Status
import MediaControl.Text.Utf8

/-!
# Messages (SPEC_FULL §3)

Requests, responses and events.  All three carry a request id, header lines and perhaps a body with
its type; the length and the type of the body are no header lines, they follow from the body.
-/

set_option autoImplicit false

namespace MediaControl

/-- A body and its type. -/
structure Content where
  type : String
  body : Bytes
  deriving DecidableEq, Repr, Inhabited

/-- A request for a method. -/
structure Request where
  method : Method
  id : Nat
  headers : Headers := []
  content : Option Content := none

/-- The answer to a request. -/
structure Response where
  id : Nat
  status : Status
  state : RequestState
  headers : Headers := []
  content : Option Content := none

/-- A report on a request. -/
structure Event where
  name : EventName
  id : Nat
  state : RequestState
  headers : Headers := []
  content : Option Content := none

/-- What travels on a connection. -/
inductive Message where
  | request (r : Request)
  | response (r : Response)
  | event (e : Event)

instance : BEq Request where
  beq a b := a.method == b.method && a.id == b.id && a.headers == b.headers
    && a.content == b.content

instance : BEq Response where
  beq a b := a.id == b.id && a.status == b.status && a.state == b.state && a.headers == b.headers
    && a.content == b.content

instance : BEq Event where
  beq a b := a.name == b.name && a.id == b.id && a.state == b.state && a.headers == b.headers
    && a.content == b.content

instance : BEq Message where
  beq
    | .request a, .request b => a == b
    | .response a, .response b => a == b
    | .event a, .event b => a == b
    | _, _ => false

/-- The header that names a channel. -/
def ChannelId.header (channel : ChannelId) : Header :=
  .ofValue Catalogue.channelIdentifier (.channel channel)

/-- The headers with the channel named in them: in the place of the first header that named one. -/
def Headers.stamp (hs : Headers) (channel : ChannelId) : Headers := Headers.set hs channel.header

/-- The headers with the channel named in them, unless some header names one already. -/
def Headers.stampMissing (hs : Headers) (channel : ChannelId) : Headers :=
  if Headers.contains hs Catalogue.channelIdentifier then hs else Headers.stamp hs channel

/-- The headers of a message made on a channel: the channel is named, unless the message is bare, and
then the given headers are set one after the other. -/
def Headers.forChannel (channel : ChannelId) (isBare : Bool) (given : Headers) : Headers :=
  given.foldl Headers.set (if isBare then [] else Headers.stamp [] channel)

namespace Request

/-- A request on a channel.  It gets its id when it is sent. -/
def new (method : Method) (channel : ChannelId) : Request :=
  { method, id := 0, headers := Headers.stamp [] channel }

end Request

namespace Response

/-- A response on a channel. -/
def new (id : Nat) (status : Status) (state : RequestState) (channel : ChannelId) : Response :=
  { id, status, state, headers := Headers.stamp [] channel }

end Response

namespace Event

/-- An event on a channel. -/
def new (name : EventName) (id : Nat) (state : RequestState) (channel : ChannelId) : Event :=
  { name, id, state, headers := Headers.stamp [] channel }

end Event

namespace Message

/-- The id of the request that the message makes, answers or reports on. -/
def id : Message → Nat
  | request r => r.id
  | response r => r.id
  | event e => e.id

/-- The header lines. -/
def headers : Message → Headers
  | request r => r.headers
  | response r => r.headers
  | event e => e.headers

/-- The body and its type. -/
def content : Message → Option Content
  | request r => r.content
  | response r => r.content
  | event e => e.content

/-- How far the request has come; a request itself does not say. -/
def state? : Message → Option RequestState
  | request _ => none
  | response r => some r.state
  | event e => some e.state

/-- The message with other header lines. -/
def withHeaders : Message → Headers → Message
  | request r, hs => request { r with headers := hs }
  | response r, hs => response { r with headers := hs }
  | event e, hs => event { e with headers := hs }

/-- The message with another body, or none. -/
def withContent : Message → Option Content → Message
  | request r, c => request { r with content := c }
  | response r, c => response { r with content := c }
  | event e, c => event { e with content := c }

@[simp] theorem headers_withHeaders (m : Message) (hs : Headers) : (m.withHeaders hs).headers = hs := by
  cases m <;> rfl

@[simp] theorem headers_withContent (m : Message) (c : Option Content) :
    (m.withContent c).headers = m.headers := by
  cases m <;> rfl

@[simp] theorem content_withContent (m : Message) (c : Option Content) :
    (m.withContent c).content = c := by
  cases m <;> rfl

@[simp] theorem withHeaders_self (m : Message) : m.withHeaders m.headers = m := by
  cases m <;> rfl

/-- The message in a few words. -/
def summary : Message → String
  | request r => s!"request {r.method.wire} #{Natural.text r.id}"
  | response r => s!"response {r.status.text} {r.state.wire} #{Natural.text r.id}"
  | event e => s!"event {e.name.wire} {e.state.wire} #{Natural.text e.id}"

end Message

end MediaControl
