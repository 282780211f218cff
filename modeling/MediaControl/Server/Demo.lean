import MediaControl.EventName
import MediaControl.Server.Handlers

/-!
# Demonstration handlers (SPEC_FULL §6)

Handlers that answer every method of a resource with success.  Methods that go on after their
response are answered as in progress, and their completion follows at once.
-/

set_option autoImplicit false

namespace MediaControl

namespace Demo

/-- The type of the result of a recognition. -/
def resultType : String := "application/nlsml+xml"

/-- The result of a recognition. -/
def result : String :=
  "<?xml version=\"1.0\"?>\n<result>\n  <interpretation confidence=\"0.9\">\n"
    ++ "    <instance>demo</instance>\n    <input mode=\"speech\">demo</input>\n"
    ++ "  </interpretation>\n</result>\n"

/-- Nothing unusual happened. -/
def normal : CompletionCause := ⟨0, "normal", by decide⟩

/-- The event that completes a request. -/
def completion (name : EventName) (channel : ChannelId) (id : Nat) : Event :=
  let e := Event.new name id .complete channel
  { e with
    headers := Headers.set e.headers (.ofValue Catalogue.completionCause (.cause normal))
    content :=
      if name = .recognitionComplete then some ⟨resultType, Utf8.encode result⟩ else none }

/-- Answers a request for the method. -/
def handler (method : Method) : Handler := fun channel r =>
  match method.completionEvent? with
  | some name =>
    { late := [(0, completion name channel r.id)]
      outcome := some (.new r.id .success .inProgress channel) }
  | none => { outcome := some (.new r.id .success .complete channel) }

/-- The handlers for every method that the resource knows. -/
def handlers (resource : Resource) : Handlers :=
  (Vocabulary.all.filter fun m : Method => m.isValidFor resource).foldl
    (fun h m => h.on m (handler m)) { resource }

end Demo

end MediaControl
