import MediaControl.Method

/-!
# Events (SPEC_FULL §6)

What a resource reports without being asked.
-/

set_option autoImplicit false

namespace MediaControl

/-- What an event reports. -/
inductive EventName where
  | speechMarker
  | speakComplete
  | startOfInput
  | recognitionComplete
  | interpretationComplete
  | recordComplete
  | verificationComplete
  deriving DecidableEq, Repr, Inhabited

namespace EventName

/-- The wire form, with hyphens. -/
def wire : EventName → String
  | speechMarker => "SPEECH-MARKER"
  | speakComplete => "SPEAK-COMPLETE"
  | startOfInput => "START-OF-INPUT"
  | recognitionComplete => "RECOGNITION-COMPLETE"
  | interpretationComplete => "INTERPRETATION-COMPLETE"
  | recordComplete => "RECORD-COMPLETE"
  | verificationComplete => "VERIFICATION-COMPLETE"

/-- The symbol: the wire form with underscores for hyphens. -/
def symbol (e : EventName) : String := e.wire.map fun c => if c = '-' then '_' else c

instance : Vocabulary EventName where
  wireNoun := "event name"
  symbolNoun := "event symbol"
  all :=
    [speechMarker, speakComplete, startOfInput, recognitionComplete, interpretationComplete,
     recordComplete, verificationComplete]
  wire := wire
  symbol := symbol

end EventName

/-- The event that completes a request for the method, where the request goes on after its
response. -/
def Method.completionEvent? : Method → Option EventName
  | .speak => some .speakComplete
  | .recognize => some .recognitionComplete
  | .record => some .recordComplete
  | .verify => some .verificationComplete
  | _ => none

end MediaControl
