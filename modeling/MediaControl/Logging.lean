import MediaControl.Number.Natural
import MediaControl.Text.Caseless

/-!
# Logging (SPEC_FULL §8)

What is logged, and in which form.
-/

set_option autoImplicit false

namespace MediaControl

/-- How much is logged. -/
inductive LogLevel where
  | error
  | warn
  | info
  | debug
  | trace
  deriving DecidableEq, Repr, Inhabited

namespace LogLevel

/-- Every level, the most severe first. -/
def all : List LogLevel := [error, warn, info, debug, trace]

/-- The name of the level. -/
def text : LogLevel → String
  | error => "ERROR"
  | warn => "WARN"
  | info => "INFO"
  | debug => "DEBUG"
  | trace => "TRACE"

/-- Reads a level: its name in any case, or its number from one, the most severe, to five. -/
def read? (s : String) : Option LogLevel :=
  match Natural.read Natural.max64 s with
  | .ok n => if n = 0 then none else all[n - 1]?
  | .error _ => all.find? fun level => Text.sameCaseless level.text s

end LogLevel

/-- The form of the log. -/
inductive LogFormat where
  | pretty
  | compact
  | json
  deriving DecidableEq, Repr, Inhabited

namespace LogFormat

/-- The name of the form. -/
def text : LogFormat → String
  | pretty => "Pretty"
  | compact => "Compact"
  | json => "Json"

/-- The form with the name, in any case. -/
def read? (s : String) : Option LogFormat :=
  [pretty, compact, json].find? fun format => Text.sameCaseless format.text s

end LogFormat

/-- What is logged, and in which form. -/
structure Logging where
  level : LogLevel := .info
  format : LogFormat := .pretty
  /-- source positions are logged -/
  showsLocation : Bool := false
  showsTime : Bool := true
  /-- the beginning and the end of activities are logged -/
  showsSpans : Bool := false
  /-- the bytes on the wire are logged -/
  tracesWire : Bool := false
  /-- directives that stand above the level -/
  filter? : Option String := none
  deriving DecidableEq, Repr, Inhabited

namespace Logging

/-- For a command that is run by hand. -/
def client : Logging := { level := .warn, format := .compact, showsTime := false }

/-- For a server that runs on. -/
def server : Logging :=
  { level := .info, format := .json, showsLocation := true, showsSpans := true }

/-- The parts of the program that log. -/
def targets : List String := ["mrcp_core", "mrcp_protocol", "mrcp_server", "mrcp_client"]

/-- The directives that set the level. -/
def directives (l : Logging) : String :=
  ",".intercalate (targets.map (fun target => target ++ "=" ++ l.level.text)
    ++ if l.tracesWire then ["mrcp_protocol::wire=trace"] else [])

end Logging

end MediaControl
