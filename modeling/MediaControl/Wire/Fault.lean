import MediaControl.Number.Natural
import MediaControl.Text.Utf8
import MediaControl.Vocabulary

/-!
# Faults on the wire (SPEC_FULL §4.1)

Why bytes form no message, or why a message was not written.  Every one of these ends the connection
on which it arises.
-/

set_option autoImplicit false

namespace MediaControl.Wire

/-- Why bytes form no message. -/
inductive Fault where
  /-- there is no message where one must be -/
  | noMessage
  /-- more bytes than allowed, and still no end of a head among them -/
  | unterminatedHead (limit : Nat)
  | headNotText (fault : Utf8.Fault)
  | emptyHead
  /-- the start line is malformed; a token in it may be to blame -/
  | startLine (line : String) (unknown : Option UnknownToken)
  | version (word : String)
  | lineWithoutColon (line : String)
  | lineWithoutName (line : String)
  | contentLength (value : String) (fault : Natural.Fault)
  | bodyWithoutType
  /-- head and body together are larger than allowed -/
  | oversized (length limit : Nat)
  /-- the stream ended behind so many bytes of a message -/
  | truncated (length : Nat)
  /-- the message to be written is larger than allowed -/
  | unwritable (length limit : Nat)
  deriving DecidableEq, Repr, Inhabited

namespace Fault

/-- The fault in words. -/
def message : Fault → String
  | noMessage => "no message in input"
  | unterminatedHead limit => s!"no header terminator within {limit} bytes"
  | headNotText _ => "message head is not UTF-8"
  | emptyHead => "empty message head"
  | startLine line _ => s!"invalid start-line {Text.quoted line}"
  | version word => s!"unsupported protocol version {Text.quoted word}"
  | lineWithoutColon line => s!"header line without ':': {Text.quoted line}"
  | lineWithoutName line => s!"header line without name: {Text.quoted line}"
  | contentLength value _ => s!"invalid Content-Length {Text.quoted value}"
  | bodyWithoutType => "message body without Content-Type"
  | oversized length limit => s!"Content-Length {length} exceeds limit of {limit} bytes"
  | truncated length => s!"stream ended inside a message ({length} bytes buffered)"
  | unwritable length limit => s!"message of {length} bytes exceeds limit of {limit}"

/-- The words of the reason behind the fault. -/
def reason? : Fault → Option String
  | headNotText fault => some fault.message
  | startLine _ (some unknown) => some unknown.message
  | contentLength _ fault => some fault.message
  | _ => none

end Fault

end MediaControl.Wire
