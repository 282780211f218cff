import MediaControl.Resource

/-!
# Methods (SPEC_FULL §6)

What a request asks a resource to do, and which resources know which method: a session parameter is
known everywhere, anything else belongs to the synthesizers, the recognizers, the recorder or the
verifier.
-/

set_option autoImplicit false

namespace MediaControl

/-- What a request asks for. -/
inductive Method where
  | setParams
  | getParams
  | speak
  | stop
  | pause
  | resume
  | bargeInOccurred
  | control
  | defineLexicon
  | defineGrammar
  | recognize
  | interpret
  | getResult
  | startInputTimers
  | startPhraseEnrollment
  | enrollmentRollback
  | endPhraseEnrollment
  | modifyPhrase
  | deletePhrase
  | record
  | startSession
  | endSession
  | queryVoiceprint
  | deleteVoiceprint
  | verify
  | verifyFromBuffer
  | verifyRollback
  | clearBuffer
  | getIntermediateResult
  deriving DecidableEq, Repr, Inhabited

namespace Method

/-- The wire form, with hyphens. -/
def wire : Method → String
  | setParams => "SET-PARAMS"
  | getParams => "GET-PARAMS"
  | speak => "SPEAK"
  | stop => "STOP"
  | pause => "PAUSE"
  | resume => "RESUME"
  | bargeInOccurred => "BARGE-IN-OCCURRED"
  | control => "CONTROL"
  | defineLexicon => "DEFINE-LEXICON"
  | defineGrammar => "DEFINE-GRAMMAR"
  | recognize => "RECOGNIZE"
  | interpret => "INTERPRET"
  | getResult => "GET-RESULT"
  | startInputTimers => "START-INPUT-TIMERS"
  | startPhraseEnrollment => "START-PHRASE-ENROLLMENT"
  | enrollmentRollback => "ENROLLMENT-ROLLBACK"
  | endPhraseEnrollment => "END-PHRASE-ENROLLMENT"
  | modifyPhrase => "MODIFY-PHRASE"
  | deletePhrase => "DELETE-PHRASE"
  | record => "RECORD"
  | startSession => "START-SESSION"
  | endSession => "END-SESSION"
  | queryVoiceprint => "QUERY-VOICEPRINT"
  | deleteVoiceprint => "DELETE-VOICEPRINT"
  | verify => "VERIFY"
  | verifyFromBuffer => "VERIFY-FROM-BUFFER"
  | verifyRollback => "VERIFY-ROLLBACK"
  | clearBuffer => "CLEAR-BUFFER"
  | getIntermediateResult => "GET-INTERMEDIATE-RESULT"

/-- The symbol: the wire form with underscores for hyphens. -/
def symbol (m : Method) : String := m.wire.map fun c => if c = '-' then '_' else c

instance : Vocabulary Method where
  wireNoun := "method name"
  symbolNoun := "method symbol"
  all :=
    [setParams, getParams, speak, stop, pause, resume, bargeInOccurred, control, defineLexicon,
     defineGrammar, recognize, interpret, getResult, startInputTimers, startPhraseEnrollment,
     enrollmentRollback, endPhraseEnrollment, modifyPhrase, deletePhrase, record, startSession,
     endSession, queryVoiceprint, deleteVoiceprint, verify, verifyFromBuffer, verifyRollback,
     clearBuffer, getIntermediateResult]
  wire := wire
  symbol := symbol

/-- The name in listings of handlers: the words of the wire form, each with a capital. -/
def title (m : Method) : String :=
  let word (w : List Char) : List Char := w.take 1 ++ Text.lowerChars (w.drop 1)
  String.ofList ((m.wire.toList.splitOnP (· = '-')).flatMap word)

/-- A channel of the resource accepts the method. -/
def isValidFor (m : Method) (resource : Resource) : Bool :=
  match m with
  | setParams | getParams | stop => true
  | speak | pause | resume | bargeInOccurred | control | defineLexicon => resource.isSynthesizer
  | defineGrammar | recognize | interpret | getResult | startPhraseEnrollment
  | enrollmentRollback | endPhraseEnrollment | modifyPhrase | deletePhrase => resource.isRecognizer
  | startInputTimers =>
    resource.isRecognizer || resource = .recorder || resource = .speakVerify
  | record => resource = .recorder
  | startSession | endSession | queryVoiceprint | deleteVoiceprint | verify | verifyFromBuffer
  | verifyRollback | clearBuffer | getIntermediateResult => resource = .speakVerify

end Method

end MediaControl
