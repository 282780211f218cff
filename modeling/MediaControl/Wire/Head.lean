import MediaControl.Message
import MediaControl.Wire.StartLine

/-!
# The head of a message (SPEC_FULL §4.1)

The head is the start line, the header lines and an empty line.  A message has a body exactly when
its head gives the body's length; then the first `Content-Type` line gives the body's type and is no
header line any more.  Lengths never are header lines, and the last one counts.
-/

set_option autoImplicit false

namespace MediaControl.Wire

/-- What a head says. -/
structure Head where
  start : StartLine
  headers : Headers
  contentType : Option String := none
  contentLength : Option Nat := none

namespace Head

/-- A line without the carriage return at its end. -/
def dropReturn (line : List Char) : List Char :=
  if line.getLast? = some '\r' then line.dropLast else line

/-- The lines of a text that are not empty, without their ends. -/
def lines (head : String) : List String :=
  (((head.toList.splitOnP (· = '\n')).map dropReturn).filter fun line => !line.isEmpty).map
    String.ofList

/-- One line behind the start line. -/
inductive Line where
  | header (h : Header)
  | length (n : Nat)

/-- Reads a line behind the start line: a name, a colon and a value, with blanks around the two. -/
def readLine (line : String) : Except Fault Line :=
  let name := line.toList.takeWhile (· ≠ ':')
  match line.toList.dropWhile (· ≠ ':') with
  | [] => .error (.lineWithoutColon line)
  | _ :: value =>
    let name := Text.trim (String.ofList name)
    let value := Text.trim (String.ofList value)
    if name = "" then .error (.lineWithoutName line)
    else if Text.sameCaseless name Catalogue.contentLength then
      match Natural.read Natural.max64 value with
      | .ok n => .ok (.length n)
      | .error fault => .error (.contentLength value fault)
    else .ok (.header (.ofText name value))

/-- Reads the lines behind the start line, after `headers`, last one first, and a length. -/
def readLines (headers : List Header) (length : Option Nat) :
    List String → Except Fault (Headers × Option Nat)
  | [] => .ok (headers.reverse, length)
  | line :: rest =>
    match readLine line with
    | .ok (.header h) => readLines (h :: headers) length rest
    | .ok (.length n) => readLines headers (some n) rest
    | .error fault => .error fault

/-- Takes the body's type out of the header lines, if there is a body. -/
def settleContent (start : StartLine) (headers : Headers) : Option Nat → Except Fault Head
  | none => .ok { start, headers }
  | some length =>
    match Headers.get? headers Catalogue.contentType with
    | some h =>
      .ok { start, headers := Headers.erase headers Catalogue.contentType,
            contentType := some h.raw, contentLength := some length }
    | none =>
      if 0 < length then .error .bodyWithoutType
      else .ok { start, headers, contentLength := some length }

/-- Reads a head. -/
def read (head : String) : Except Fault Head :=
  match lines head with
  | [] => .error .emptyHead
  | first :: rest => do
    let start ← StartLine.read first
    let (headers, length) ← readLines [] none rest
    settleContent start headers length

/-- How many bytes of body follow the head. -/
def bodyLength (h : Head) : Nat := h.contentLength.getD 0

/-- The body with its type, if the head announces one. -/
def content (h : Head) (body : Bytes) : Option Content :=
  match h.contentLength, h.contentType with
  | some _, some type => some { type, body }
  | _, _ => none

/-- The message of the head and the bytes behind it. -/
def message (h : Head) (body : Bytes) : Message :=
  match h.start with
  | .request method id =>
    .request { method, id, headers := h.headers, content := h.content body }
  | .response status id state =>
    .response { id, status, state, headers := h.headers, content := h.content body }
  | .event name id state =>
    .event { name, id, state, headers := h.headers, content := h.content body }

end Head

end MediaControl.Wire
