import MediaControl.Vocabulary

/-!
# Request states (SPEC_FULL §3)

How far a request has come, as responses and events report it.  A request is pending or in progress
until it is complete, and nothing follows completion.
-/

set_option autoImplicit false

namespace MediaControl

/-- How far a request has come. -/
inductive RequestState where
  /-- queued, not yet started -/
  | pending
  /-- acknowledged; a final event will follow -/
  | inProgress
  /-- finished -/
  | complete
  deriving DecidableEq, Repr, Inhabited

namespace RequestState

/-- The wire form, with hyphens. -/
def wire : RequestState → String
  | pending => "PENDING"
  | inProgress => "IN-PROGRESS"
  | complete => "COMPLETE"

/-- The symbol. -/
def symbol : RequestState → String
  | pending => "PENDING"
  | inProgress => "IN_PROGRESS"
  | complete => "COMPLETE"

instance : Vocabulary RequestState where
  wireNoun := "request state"
  symbolNoun := "request state symbol"
  all := [pending, inProgress, complete]
  wire := wire
  symbol := symbol

/-- Nothing follows this state. -/
def isTerminal (s : RequestState) : Bool := s = complete

end RequestState

end MediaControl
