import MediaControl.Client.Config
import MediaControl.Client.Error
import MediaControl.Client.Session
import MediaControl.CommandLine.Command
import MediaControl.Number.Duration

/-!
# Sending one request (SPEC_FULL §6)

What the command line asks for, completed by the configuration: a request is made and sent on a
channel of its own, and its answers are shown.
-/

set_option autoImplicit false

namespace MediaControl

/-- A request that was asked for, and where it is to go. -/
structure Sending where
  method : Method
  channel : String
  address : String
  /-- how long connecting may take, in milliseconds -/
  connectLimit : Nat
  /-- how long a wait for an answer may take, in milliseconds -/
  limit? : Option Nat
  maxMessageSize : Nat
  options : CommandLine.SendOptions

namespace Sending

open CommandLine (SendOptions)

/-- Completes what was asked for. -/
def ofOptions (o : SendOptions) (config : ClientConfig) : Except ClientError Sending := do
  let method ← match (Vocabulary.ofWire o.method : Except UnknownToken Method) with
    | .ok method => pure method
    | .error unknown => throw (.usage unknown.message)
  let channel ← match o.channel?.or config.channel? with
    | some channel => pure channel
    | none =>
      throw (.usage "no channel given; use --channel ID@TYPE or set `channel` in config.toml")
  return { method, channel, address := o.server?.getD config.server.address
           connectLimit := config.connectLimit
           limit? := (o.timeout?.map (· * 1000)).or config.requestLimit?
           maxMessageSize := config.server.maxMessageSize, options := o }

/-- The error when no connection can be made. -/
def unreachable (s : Sending) : ClientError := .protocol (.ofCause (.unreachable s.address))

/-- The error when it takes too long to make a connection. -/
def tooSlow (s : Sending) : ClientError :=
  .protocol (.ofCause (.connectTimedOut s.address (Duration.text s.connectLimit)))

/-! ## The request -/

/-- The header that a text `NAME:VALUE` stands for, blanks apart. -/
def headerOf? (text : String) : Option Header :=
  let name := text.toList.takeWhile (· ≠ ':')
  match text.toList.dropWhile (· ≠ ':') with
  | [] => none
  | _ :: value =>
    if (Text.trimChars name).isEmpty then none
    else some (.ofText (.ofList (Text.trimChars name)) (.ofList (Text.trimChars value)))

/-- Sets headers that are given as texts, one after the other. -/
def addHeaders (headers : Headers) (texts : List String) : Except ClientError Headers :=
  texts.foldlM (fun headers text =>
    match headerOf? text with
    | some h => .ok (Headers.set headers h)
    | none => .error (.usage s!"header {Text.quoted text} is not NAME:VALUE")) headers

/-- The request on a channel. -/
def request (s : Sending) (channel : ChannelId) : Except ClientError Request := do
  let headers ← addHeaders (Headers.stamp [] channel) s.options.headers
  return { method := s.method, id := 0, headers
           content := s.options.body?.map fun body =>
             { type := s.options.contentType, body := Utf8.encode body } }

/-- Opens the channel of a session and sends the request on it. -/
def start (s : Sending) (session : Session) : Except ClientError (Pending × Session) := do
  let protocol {α : Type} : Except Error α → Except ClientError α := Except.mapError .protocol
  let (number, session) ← protocol (session.openNamed s.channel)
  match session.channel? number with
  | none => throw s.unreachable
  | some channel =>
    let (sent, session) := session.sendOn number channel.id (← s.request channel.id)
    return (← protocol sent, session)

/-- An answer as it is shown. -/
def shown (m : Message) : String := .ofList (Utf8.decodeLossy m.encode) ++ "\n"

end Sending

end MediaControl
