import MediaControl.Message
import MediaControl.Table

/-!
# Request handlers (SPEC_FULL §4.6)

A channel of a server answers its requests through a set of handlers, one for each method it knows.
What a handler makes of a request is a *plan*: the events it reports while it works, how long it
works, the response it gives -- or none, if it breaks down -- and the events that follow on their own.
-/

set_option autoImplicit false

namespace MediaControl

/-- What a handler makes of a request. -/
structure Plan where
  /-- the events reported before there is a response -/
  early : List Event := []
  /-- how long the response takes -/
  delay : Nat := 0
  /-- the events reported on their own, each with its delay behind the response -/
  late : List (Nat × Event) := []
  /-- the response; a handler without one has broken down -/
  outcome : Option Response
  /-- an observer is told what the handler does -/
  isWatched : Bool := false

/-- Makes a plan for a request on a channel. -/
abbrev Handler := ChannelId → Request → Plan

/-- The handlers of a channel. -/
structure Handlers where
  resource : Resource
  /-- the registered handlers -/
  table : Table Method Handler := {}

namespace Handlers

/-- Registers a handler for a method, in the place of the one that was there. -/
def on (h : Handlers) (method : Method) (handler : Handler) : Handlers :=
  { h with table := h.table.insert method handler }

/-- The handler for a method; there is none for a method that the resource does not know. -/
def get? (h : Handlers) (method : Method) : Option Handler :=
  if method.isValidFor h.resource then h.table.get? method else none

/-- The method is answered by a handler. -/
def handles (h : Handlers) (method : Method) : Bool := (h.get? method).isSome

/-- The methods with a handler, known to the resource or not, in table order. -/
def registered (h : Handlers) : List Method := Vocabulary.all.filter h.table.contains

/-- The methods that are answered by a handler, in table order. -/
def handled (h : Handlers) : List Method := Vocabulary.all.filter h.handles

/-- The handlers as a report shows them. -/
def report (h : Handlers) : String :=
  s!"ResourceHandlers \x7b resource_type: {h.resource.title}, methods: ["
    ++ ", ".intercalate (h.registered.map Method.title) ++ "] \x7d"

end Handlers

end MediaControl
