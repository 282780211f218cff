import MediaControl.Message
import MediaControl.Wire.Length
import MediaControl.Wire.StartLine

/-!
# Writing messages (SPEC_FULL §4.1)

The bytes of a message: the start line with the length of the whole, the header lines, the type and
the length of the body if there is one, an empty line, and the body.  Lines end in carriage return
and line feed.
-/

set_option autoImplicit false

namespace MediaControl

namespace Wire

/-- The end of a line. -/
def lineEnd : Bytes := [13, 10]

/-- A line with its end. -/
def lineBytes (line : String) : Bytes := Utf8.encode line ++ lineEnd

/-- The lines that announce a body. -/
def contentLines : Option Content → Bytes
  | none => []
  | some c =>
    lineBytes (Catalogue.contentType ++ ":" ++ c.type)
      ++ lineBytes (Catalogue.contentLength ++ ":" ++ Natural.text c.body.length)

/-- The bytes of a body. -/
def bodyBytes : Option Content → Bytes
  | none => []
  | some c => c.body

/-- The header lines with their ends. -/
def headerBytes (hs : Headers) : Bytes := hs.flatMap fun h => lineBytes h.line

end Wire

namespace Message

/-- The start line, version and length apart. -/
def start : Message → Wire.StartLine
  | request r => .request r.method r.id
  | response r => .response r.status r.id r.state
  | event e => .event e.name e.id e.state

@[simp] theorem start_withHeaders (m : Message) (hs : Headers) : (m.withHeaders hs).start = m.start := by
  cases m <;> rfl

@[simp] theorem start_withContent (m : Message) (c : Option Content) :
    (m.withContent c).start = m.start := by
  cases m <;> rfl

/-- Everything behind the start line. -/
def rest (m : Message) : Bytes :=
  Wire.headerBytes m.headers ++ Wire.contentLines m.content ++ Wire.lineEnd
    ++ Wire.bodyBytes m.content

/-- The start line of a message of that length, without its end. -/
def startLine (m : Message) (length : Nat) : String :=
  Wire.protocolVersion ++ " " ++ Natural.text length ++ " " ++ m.start.tail

/-- How many bytes the message has beside the digits of its length. -/
def otherLength (m : Message) : Nat :=
  (Utf8.encode (Wire.protocolVersion ++ "  " ++ m.start.tail)).length + Wire.lineEnd.length
    + m.rest.length

/-- The bytes of the message. -/
def encode (m : Message) : Bytes :=
  Wire.lineBytes (m.startLine (Wire.messageLength m.otherLength)) ++ m.rest

end Message

namespace Wire

/-- Writes the message behind the buffer, unless it is larger than allowed. -/
def encodeTo (limit : Nat) (m : Message) (buffer : Bytes) : Except Fault Bytes :=
  let bytes := m.encode
  if bytes.length ≤ limit then .ok (buffer ++ bytes) else .error (.unwritable bytes.length limit)

end Wire

end MediaControl
