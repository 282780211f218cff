import MediaControl.Vocabulary

/-!
# Resource types (SPEC_FULL §6)

The kind of media resource that a channel controls.
-/

set_option autoImplicit false

namespace MediaControl

/-- The kind of media resource that a channel controls. -/
inductive Resource where
  | speechRecog
  | dtmfRecog
  | speechSynth
  | basicSynth
  | speakVerify
  | recorder
  deriving DecidableEq, Repr, Inhabited

namespace Resource

/-- The wire form, in lower case. -/
def wire : Resource → String
  | speechRecog => "speechrecog"
  | dtmfRecog => "dtmfrecog"
  | speechSynth => "speechsynth"
  | basicSynth => "basicsynth"
  | speakVerify => "speakverify"
  | recorder => "recorder"

/-- The symbol. -/
def symbol : Resource → String
  | speechRecog => "SPEECHRECOG"
  | dtmfRecog => "DTMFRECOG"
  | speechSynth => "SPEECHSYNTH"
  | basicSynth => "BASICSYNTH"
  | speakVerify => "SPEAKVERIFY"
  | recorder => "RECORDER"

/-- The name in listings of handlers. -/
def title : Resource → String
  | speechRecog => "SpeechRecog"
  | dtmfRecog => "DtmfRecog"
  | speechSynth => "SpeechSynth"
  | basicSynth => "BasicSynth"
  | speakVerify => "SpeakVerify"
  | recorder => "Recorder"

instance : Vocabulary Resource where
  wireNoun := "resource type"
  symbolNoun := "resource symbol"
  all := [speechRecog, dtmfRecog, speechSynth, basicSynth, speakVerify, recorder]
  wire := wire
  symbol := symbol

/-- Recognizes speech or key tones. -/
def isRecognizer : Resource → Bool
  | speechRecog | dtmfRecog => true
  | _ => false

/-- Speaks. -/
def isSynthesizer : Resource → Bool
  | speechSynth | basicSynth => true
  | _ => false

end Resource

end MediaControl
