import MediaControl.EventName
import MediaControl.RequestState
import MediaControl.Status
import MediaControl.Text.Blank
import MediaControl.Wire.Fault

/-!
# Start lines (SPEC_FULL §4.1)

The first line of a message: the protocol's version, the length of the message, and then a method
and a request id, a status, a request id and a request state, or an event, a request id and a request
state.  Words are separated by blanks.  The length is read but not relied on.
-/

set_option autoImplicit false

namespace MediaControl.Wire

/-- The version of the protocol. -/
def protocolVersion : String := "MRCP/2.0"

/-- What a start line says of its message, version and length apart. -/
inductive StartLine where
  | request (method : Method) (id : Nat)
  | response (status : Status) (id : Nat) (state : RequestState)
  | event (name : EventName) (id : Nat) (state : RequestState)
  deriving DecidableEq, Repr, Inhabited

namespace StartLine

/-- What stands behind version and length. -/
def tail : StartLine → String
  | request method id => method.wire ++ " " ++ Natural.text id
  | response status id state => status.text ++ " " ++ Natural.text id ++ " " ++ state.wire
  | event name id state => name.wire ++ " " ++ Natural.text id ++ " " ++ state.wire

/-- Three ASCII digits: a status rather than an event. -/
def isStatusWord (word : String) : Bool :=
  word.toList.length == 3 && word.toList.all Char.isDigit

/-- A request id. -/
def readId (line word : String) : Except Fault Nat :=
  match Natural.read Natural.max64 word with
  | .ok id => .ok id
  | .error _ => .error (.startLine line none)

/-- A term of a vocabulary. -/
def readTerm {α : Type} [Vocabulary α] (line word : String) : Except Fault α :=
  match Vocabulary.ofWire word with
  | .ok term => .ok term
  | .error unknown => .error (.startLine line (some unknown))

/-- Reads what stands behind version and length. -/
def readTail (line : String) : List String → Except Fault StartLine
  | [method, id] => do
    let method ← readTerm line method
    return .request method (← readId line id)
  | [third, id, state] =>
    if isStatusWord third then do
      let code ← readId line third
      let id ← readId line id
      return .response ⟨code⟩ id (← readTerm line state)
    else do
      let name ← readTerm line third
      let id ← readId line id
      return .event name id (← readTerm line state)
  | _ => .error (.startLine line none)

/-- Reads a start line. -/
def read (line : String) : Except Fault StartLine :=
  match Text.words line with
  | [] => .error (.startLine line none)
  | version :: rest =>
    if version ≠ protocolVersion then .error (.version version)
    else match rest with
      | [] => .error (.startLine line none)
      | length :: rest => do
        let _ ← readId line length
        readTail line rest

end StartLine

end MediaControl.Wire
