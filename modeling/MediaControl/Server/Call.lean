import MediaControl.Server.Handlers

/-!
# Calls (SPEC_FULL §4.6)

A call is a request that a handler is at work on.  Its events reach the client behind its response:
until the response has been queued they are held at a *gate*, which then lets them pass in the order
in which they came.
-/

set_option autoImplicit false

namespace MediaControl

/-- Holds events until it is opened. -/
structure Gate where
  isOpen : Bool := false
  /-- the events that are held, oldest first -/
  held : List Event := []

namespace Gate

/-- An event comes to the gate: what passes at once, and the gate then. -/
def pass (g : Gate) (e : Event) : Option Event × Gate :=
  if g.isOpen then (some e, g) else (none, { g with held := g.held ++ [e] })

/-- Opens the gate: the events that pass now, and the gate then. -/
def release (g : Gate) : List Event × Gate := (g.held, { isOpen := true })

end Gate

/-- A request that a handler is at work on. -/
structure Call where
  /-- the connection on which the request came -/
  connection : Nat
  channel : ChannelId
  request : Request
  handler : Handler
  gate : Gate := {}
  /-- the handler's response; there is none before the handler has finished, nor if it broke down -/
  outcome : Option Response := none

namespace Call

/-- What the handler makes of the request. -/
def plan (c : Call) : Plan := c.handler c.channel c.request

/-- The event with the channel named in it. -/
def address (c : Call) (e : Event) : Event :=
  { e with headers := Headers.stampMissing e.headers c.channel }

/-- The handler reports an event: what is queued at once, and the call then. -/
def pass (c : Call) (e : Event) : Option Event × Call :=
  let (passing, gate) := c.gate.pass (c.address e)
  (passing, { c with gate })

/-- The response of a handler that broke down. -/
def breakdown (c : Call) : Response :=
  .new c.request.id .serverInternalError .complete c.channel

/-- The response that is sent: the handler's, under the request's id and naming the channel. -/
def response (c : Call) : Response :=
  let r := c.outcome.getD c.breakdown
  { r with id := c.request.id, headers := Headers.stamp r.headers c.channel }

/-- The response has been queued: the events that follow it, and the call then. -/
def release (c : Call) : List Event × Call :=
  let (passing, gate) := c.gate.release
  (passing, { c with gate })

end Call

end MediaControl
