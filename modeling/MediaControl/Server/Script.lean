import MediaControl.Server.Handlers

/-!
# Scripted handlers

A handler written down as data: which events it reports and when, how long it takes, and what its
response is made of.
-/

set_option autoImplicit false

namespace MediaControl

/-- An event that a scripted handler reports. -/
structure ScriptedEvent where
  name : EventName
  state : RequestState
  /-- the event names no channel -/
  isBare : Bool := false
  headers : Headers := []
  content : Option Content := none
  /-- how long after the response the event is reported; one without a delay is reported before -/
  delay? : Option Nat := none

/-- The event on a channel, about a request. -/
def ScriptedEvent.event (e : ScriptedEvent) (channel : ChannelId) (id : Nat) : Event :=
  { name := e.name, id, state := e.state, headers := Headers.forChannel channel e.isBare e.headers,
    content := e.content }

/-- A handler for a method, written down. -/
structure Script where
  method : Method
  status : Status
  state : RequestState
  events : List ScriptedEvent := []
  delay : Nat := 0
  /-- the handler breaks down in the place of its response -/
  breaksDown : Bool := false
  /-- the channel that the response names instead of its own -/
  other? : Option ChannelId := none
  /-- the response names no channel -/
  isBare : Bool := false
  /-- the response has the headers and the body of the request -/
  isEcho : Bool := false
  headers : Headers := []
  content : Option Content := none

namespace Script

/-- The response to a request. -/
def response (s : Script) (channel : ChannelId) (r : Request) : Response :=
  let named : Headers :=
    if s.isBare then [] else Headers.stamp [] (s.other?.getD channel)
  let echoed : Headers :=
    if s.isEcho then
      named ++ r.headers.filter fun h => !h.hasName Catalogue.channelIdentifier
    else named
  { id := r.id, status := s.status, state := s.state, headers := s.headers.foldl Headers.set echoed,
    content := s.content.or (if s.isEcho then r.content else none) }

/-- The handler that does as written. -/
def handler (s : Script) : Handler := fun channel r =>
  let event (e : ScriptedEvent) : Event := e.event channel r.id
  { early := (s.events.filter fun e => e.delay?.isNone).map event
    delay := s.delay
    late := s.events.filterMap fun e => e.delay?.map fun delay => (delay, event e)
    outcome := if s.breaksDown then none else some (s.response channel r)
    isWatched := true }

/-- The handlers of scripts; a later script for a method takes the place of an earlier one. -/
def handlers (resource : Resource) (scripts : List Script) : Handlers :=
  scripts.foldl (fun h s => h.on s.method s.handler) { resource }

end Script

end MediaControl
