import MediaControl.Server.Registry

/-!
# What a server owes (SPEC_FULL §4.6)

A docket is kept of what happens to a server, without a look at the server: which channels are open,
which ids were let pass on each of them, and for every request that came in a *case*, with the ruling
on the request and whatever its handler has done since.  It says what the server is to queue on account
of the request, and what is to wait at its gate.

The ruling is made on the first of these that applies.  The request names no channel; its name for one
does not resolve; no channel with that key is open; its id does not exceed every id that passed on the
channel before it on its connection; it has the type of resource wrong; the resource does not know the
method; the method has no handler.
-/

set_option autoImplicit false

namespace MediaControl.Server

/-! ## What can happen -/

/-- What can happen to a request that a handler is at work on. -/
inductive Turn where
  /-- the handler, or whoever goes on in its place, reports an event -/
  | report (e : Event)
  /-- the handler returns its response, or breaks down -/
  | finish (outcome : Option Response)
  /-- the response is queued -/
  | answer
  /-- the events that were held up are let go -/
  | release

/-- What can happen to a server.  Connections, and requests, go by the numbers from zero on in which
they come in. -/
inductive Op where
  | openChannel (id : ChannelId) (handlers : Handlers)
  | openNamed (text : String) (handlers : Handlers)
  | close (id : String)
  /-- a connection is made -/
  | connect (peer : String) (limit : Nat)
  /-- a message comes in on a connection -/
  | receive (connection : Nat) (m : Message)
  /-- the oldest message that is queued on a connection is written -/
  | drain (connection : Nat)
  /-- a connection is closed for what would be queued on it -/
  | shut (connection : Nat)
  /-- a connection is gone -/
  | disconnect (connection : Nat)
  | turn (request : Nat) (t : Turn)

/-! ## Rulings -/

/-- What is to be made of a request. -/
inductive Ruling where
  /-- the server itself answers -/
  | refused (response : Response)
  /-- a handler of the channel answers -/
  | handled (channel : ChannelId) (handler : Handler)

/-- The request is refused with a status, and the headers of the answer name a channel or do not. -/
def Ruling.refuse (r : Request) (status : Status) (headers : Headers) : Ruling :=
  .refused { id := r.id, status, state := .complete, headers }

/-- A channel that is open. -/
structure Opening where
  id : ChannelId
  handlers : Handlers
  /-- the ids that passed, by connection -/
  passed : Nat → List Nat := fun _ => []

namespace Opening

/-- The id exceeds every id that passed on the connection. -/
def admits (o : Opening) (connection id : Nat) : Bool :=
  (o.passed connection).all fun earlier => earlier < id

/-- The channel after an id came in on a connection. -/
def pass (o : Opening) (connection id : Nat) : Opening :=
  if o.admits connection id then
    { o with passed := fun other =>
        if other = connection then o.passed connection ++ [id] else o.passed other }
  else o

/-- The ruling on a request that gives the channel this name. -/
def rule (o : Opening) (connection : Nat) (named : ChannelId) (r : Request) : Ruling :=
  let refuse (status : Status) : Ruling := .refuse r status [o.id.header]
  if !o.admits connection r.id then refuse ⟨410⟩
  else if named.resource ≠ o.id.resource then refuse ⟨405⟩
  else if !r.method.isValidFor o.id.resource then refuse ⟨401⟩
  else
    match o.handlers.table.get? r.method with
    | none => refuse ⟨401⟩
    | some handler => .handled o.id handler

end Opening

/-! ## Cases -/

/-- How far a request has come. -/
inductive Stage where
  /-- the handler is at work -/
  | working
  /-- the handler has returned its response, or has broken down -/
  | ended
  /-- the response has been queued -/
  | answered
  /-- the events that were held up have been let go -/
  | released
  deriving DecidableEq

/-- A request, the ruling on it, and what its handler has done since. -/
structure Case where
  /-- the connection on which the request came -/
  connection : Nat
  request : Request
  ruling : Ruling
  stage : Stage
  /-- the response of the handler, if it returned one -/
  outcome : Option Response := none
  /-- the events that were reported, oldest first -/
  events : List Event := []

namespace Case

/-- The case of a request that came in.  Nothing more is to be done for one that is refused. -/
def start (connection : Nat) (request : Request) (ruling : Ruling) : Case :=
  { connection, request, ruling
    stage := match ruling with
      | .refused _ => .released
      | .handled .. => .working }

/-- The case after a turn of its handler. -/
def turn (k : Case) (t : Turn) : Case :=
  match k.ruling with
  | .refused _ => k
  | .handled .. =>
    match t with
    | .report e => { k with events := k.events ++ [e] }
    | .finish outcome => if k.stage = .working then { k with outcome, stage := .ended } else k
    | .answer => if k.stage = .ended then { k with stage := .answered } else k
    | .release => if k.stage = .answered then { k with stage := .released } else k

/-- The response of a handler as it is to be sent: with the id of the request and the name of the
channel.  It says that the server failed if the handler broke down. -/
def signed (k : Case) (channel : ChannelId) : Response :=
  match k.outcome with
  | some given => { given with id := k.request.id, headers := Headers.stamp given.headers channel }
  | none =>
    { id := k.request.id, status := ⟨501⟩, state := .complete, headers := [channel.header] }

/-- The response that is to be sent. -/
def response (k : Case) : Response :=
  match k.ruling with
  | .refused response => response
  | .handled channel _ => k.signed channel

/-- An event as it is to be sent: with the name of the channel, unless it names one. -/
def addressed (k : Case) (e : Event) : Event :=
  match k.ruling with
  | .refused _ => e
  | .handled channel _ => { e with headers := Headers.stampMissing e.headers channel }

/-- The response has been queued. -/
def isAnswered (k : Case) : Bool := k.stage = .answered || k.stage = .released

/-- What is to have been queued so far. -/
def messages (k : Case) : List Message :=
  match k.stage with
  | .working | .ended => []
  | .answered => [.response k.response]
  | .released => .response k.response :: k.events.map fun e => .event (k.addressed e)

/-- The events that are to be held up. -/
def held (k : Case) : List Event :=
  if k.stage = .released then [] else k.events.map k.addressed

end Case

/-! ## Dockets -/

/-- What a server owes, and what that depends on. -/
structure Docket where
  /-- the open channels, by key -/
  opening? : String → Option Opening := fun _ => none
  /-- how many connections were made -/
  connections : Nat := 0
  /-- the connections that are gone -/
  isGone : Nat → Bool := fun _ => false
  /-- the requests that came in, by number -/
  cases : List Case := []

namespace Docket

/-- Messages come in on the connection. -/
def isLive (d : Docket) (connection : Nat) : Bool :=
  connection < d.connections && !d.isGone connection

/-- The ruling on a request. -/
def rule (d : Docket) (connection : Nat) (r : Request) : Ruling :=
  match Headers.get? r.headers Catalogue.channelIdentifier with
  | none => .refuse r ⟨406⟩ []
  | some h =>
    match Headers.channelId r.headers with
    | .error _ => .refuse r ⟨404⟩ [h]
    | .ok named =>
      match d.opening? named.key with
      | none => .refuse r ⟨405⟩ [named.header]
      | some o => o.rule connection named r

/-- The open channels after a request came in. -/
def openingsAfter (d : Docket) (connection : Nat) (r : Request) : String → Option Opening :=
  match Headers.channelId r.headers with
  | .error _ => d.opening?
  | .ok named => fun key =>
    if key = named.key then (d.opening? key).map fun o => o.pass connection r.id
    else d.opening? key

/-- A request comes in. -/
def enter (d : Docket) (connection : Nat) (r : Request) : Docket :=
  { d with
    opening? := d.openingsAfter connection r
    cases := d.cases ++ [.start connection r (d.rule connection r)] }

/-- A channel is opened, if the handlers are for its type of resource and its key is free. -/
def openChannel (d : Docket) (id : ChannelId) (handlers : Handlers) : Docket :=
  if handlers.resource = id.resource ∧ d.opening? id.key = none then
    { d with opening? := fun key => if key = id.key then some { id, handlers } else d.opening? key }
  else d

/-- One thing that happens. -/
def step (d : Docket) : Op → Docket
  | .openChannel id handlers => d.openChannel id handlers
  | .openNamed text handlers =>
    match ChannelId.parse text with
    | .ok id => d.openChannel id handlers
    | .error _ => d
  | .close id =>
    { d with opening? := fun key => if key = Text.trim id then none else d.opening? key }
  | .connect .. => { d with connections := d.connections + 1 }
  | .receive connection (.request r) => if d.isLive connection then d.enter connection r else d
  | .receive .. | .drain _ | .shut _ => d
  | .disconnect connection =>
    if d.isLive connection then
      { d with isGone := fun other => other = connection || d.isGone other }
    else d
  | .turn request t => { d with cases := d.cases.modify request fun k => k.turn t }

/-- What happens, first to last. -/
def run (d : Docket) (ops : List Op) : Docket := ops.foldl step d

theorem length_cases_enter (d : Docket) (connection : Nat) (r : Request) :
    (d.enter connection r).cases.length = d.cases.length + 1 := by
  rw [enter, List.length_append, List.length_singleton]

theorem length_cases_turn (d : Docket) (request : Nat) (t : Turn) :
    (d.step (.turn request t)).cases.length = d.cases.length := by
  rw [step, List.length_modify]

@[simp] theorem cases_openChannel (d : Docket) (id : ChannelId) (handlers : Handlers) :
    (d.openChannel id handlers).cases = d.cases := by
  unfold openChannel
  split <;> rfl

end Docket

end MediaControl.Server
