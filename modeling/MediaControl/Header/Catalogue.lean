import MediaControl.Header.Value
import MediaControl.Number.Decimal
import MediaControl.Text.Caseless

/-!
# The catalogue of headers (SPEC_FULL §4.2)

The headers that the protocol defines, each with the kind of its value.  Names are looked up without
regard to ASCII case.  A header that is not listed belongs to a vendor, and its value is its text.
-/

set_option autoImplicit false

namespace MediaControl

/-- How the text of a header is read. -/
inductive ValueKind where
  | channelId
  | completionCause
  | integer
  | boolean
  /-- a decimal from zero to one -/
  | unitFloat
  | text
  deriving DecidableEq, Repr, Inhabited

namespace ValueKind

/-- Digits only, blanks around them apart. -/
def readInteger (raw : String) : Except IllegalValue HeaderValue :=
  let s := Text.trim raw
  if s.toList.isEmpty || !s.toList.all Char.isDigit then .error (.notInteger raw)
  else match Natural.read Natural.max64 s with
    | .ok n => .ok (.integer n)
    | .error fault => .error (.integerFault raw fault)

/-- `true` or `false` in any case, blanks around it apart. -/
def readBoolean (raw : String) : Except IllegalValue HeaderValue :=
  let s := Text.trim raw
  if Text.sameCaseless s "true" then .ok (.boolean true)
  else if Text.sameCaseless s "false" then .ok (.boolean false)
  else .error (.notBoolean raw)

/-- A decimal from zero to one, blanks around it apart. -/
def readUnitFloat (raw : String) : Except IllegalValue HeaderValue :=
  match Numeral.read? (Text.trim raw) with
  | none => .error (.notDecimal raw)
  | some numeral =>
    let x := numeral.toFloat
    if 0.0 ≤ x && x ≤ 1.0 then .ok (.float x) else .error (.outsideUnit x)

/-- Reads the text of a header of the given kind. -/
def read : ValueKind → String → Except IllegalValue HeaderValue
  | channelId, raw => (ChannelId.parse raw).map .channel
  | completionCause, raw => (CompletionCause.parse raw).map .cause
  | integer, raw => readInteger raw
  | boolean, raw => readBoolean raw
  | unitFloat, raw => readUnitFloat raw
  | text, raw => .ok (.text raw)

end ValueKind

namespace Catalogue

/-- The name of the header that names the channel. -/
def channelIdentifier : String := "Channel-Identifier"

/-- The name of the header that says why a request completed. -/
def completionCause : String := "Completion-Cause"

/-- The name of the header with the type of the body. -/
def contentType : String := "Content-Type"

/-- The name of the header with the length of the body. -/
def contentLength : String := "Content-Length"

/-- The headers with a numeric value. -/
def integerNames : List String :=
  [contentLength, "Fetch-Timeout", "No-Input-Timeout", "Recognition-Timeout",
   "Speech-Complete-Timeout", "Speech-Incomplete-Timeout", "Hotword-Max-Duration",
   "Hotword-Min-Duration", "N-Best-List-Length"]

/-- The headers with a truth value. -/
def booleanNames : List String :=
  ["Start-Input-Timers", "Save-Waveform", "Kill-On-Barge-In", "Early-No-Match"]

/-- The headers with a decimal from zero to one. -/
def unitFloatNames : List String :=
  ["Confidence-Threshold", "Sensitivity-Level", "Speed-Vs-Accuracy"]

/-- The headers whose value is their text. -/
def textNames : List String :=
  [contentType, "Content-Id", "Content-Base", "Content-Encoding", "Content-Location",
   "Cache-Control", "Logging-Tag", "Proxy-Sync-Id", "Accept", "Accept-Charset",
   "Active-Request-Id-List", "Completion-Reason", "Waveform-Uri", "Speech-Language", "Voice-Name",
   "Recognizer-Context-Block"]

/-- Every header of the catalogue with the kind of its value. -/
def entries : List (String × ValueKind) :=
  [(channelIdentifier, .channelId), (completionCause, .completionCause)]
    ++ integerNames.map (·, .integer) ++ booleanNames.map (·, .boolean)
    ++ unitFloatNames.map (·, .unitFloat) ++ textNames.map (·, .text)

/-- The listed header of that name, in its listed spelling, with the kind of its value. -/
def lookup (name : String) : Option (String × ValueKind) :=
  entries.find? fun entry => Text.sameCaseless entry.1 name

/-- The kind of the value of a header: text where the header is not listed. -/
def kindOf (name : String) : ValueKind :=
  match lookup name with
  | some entry => entry.2
  | none => .text

/-- Reads the text of the header of that name. -/
def read (name raw : String) : Except IllegalValue HeaderValue := (kindOf name).read raw

end Catalogue

end MediaControl
