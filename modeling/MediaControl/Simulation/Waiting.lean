import MediaControl.Number.Duration
import MediaControl.Simulation.Network

/-!
# Waiting for answers in virtual time (SPEC_FULL §4.7)

A client waits for the response to a request, for its completion, for an event or for the end of its
connection.  A wait ends with what came, with a complaint when its own limit has passed, or with
nothing at the moment up to which anybody waits at all; for an event with a limit of its own
anybody waits as long as that says.
-/

set_option autoImplicit false

namespace MediaControl.TimedNetwork

/-- How long anybody waits at all, in milliseconds: an hour. -/
def patience : Nat := 3600000

/-- Applies a taker to the session of a network. -/
def fromSession {β : Type} (take : Session → Option (β × Session)) (n : Network) :
    Option (β × Network) :=
  match n.session? with
  | none => none
  | some s => (take s).map fun (b, s) => (b, { n with session? := some s })

/-- Waits for an item until its own limit has passed, which is told by `late`, or until the moment
`until` has come. -/
def awaitItem {β : Type} (take : Session → Option (Except Error β × Session))
    (limit? : Option Nat) (late : Nat → Cause) (last : Nat) (t : TimedNetwork) :
    Option (Except Error β) × TimedNetwork :=
  let left := last - t.agenda.now
  match limit? with
  | none => Timed.await perform (fromSession take) left t
  | some limit =>
    match Timed.await perform (fromSession take) (min limit left) t with
    | (some item, t) => (some item, t)
    | (none, t) => (if limit ≤ left then some (.error (.ofCause (late limit))) else none, t)

/-- Waits for the next answer to a request. -/
def awaitAnswer (p : Pending) (last : Nat) (t : TimedNetwork) :
    Option (Except Error Message) × TimedNetwork :=
  awaitItem (fun s => (s.correlator.take? p.slot).map fun (item, correlator) =>
      (item, { s with correlator }))
    p.limit? (fun limit => .requestTimedOut p.id (Duration.text limit)) last t

/-- Waits for the response to a request. -/
def response (p : Pending) (t : TimedNetwork) : Option (Except Error Response) × TimedNetwork :=
  let (item, t) := awaitAnswer p (t.agenda.now + patience) t
  (item.map Pending.responseOf, t)

/-- Waits for the completion of a request, for which answers are taken one after the other. -/
def completionFrom (p : Pending) (last : Nat) :
    Nat → TimedNetwork → Option (Except Error Message) × TimedNetwork
  | 0, t => (none, t)
  | fuel + 1, t =>
    match awaitAnswer p last t with
    | (none, t) => (none, t)
    | (some item, t) =>
      match Pending.completionOf item with
      | some result => (some result, t)
      | none => completionFrom p last fuel t

/-- Waits for the completion of a request. -/
def completion (p : Pending) (t : TimedNetwork) : Option (Except Error Message) × TimedNetwork :=
  completionFrom p (t.agenda.now + patience) Timed.patience t

/-- The response to a request, without waiting for it. -/
def responseNow (p : Pending) (t : TimedNetwork) : Option (Except Error Response) × TimedNetwork :=
  let (item, t) := awaitAnswer { p with limit? := none } t.agenda.now t
  (item.map Pending.responseOf, t)

/-- The completion of a request, without waiting for it. -/
def completionNow (p : Pending) (t : TimedNetwork) :
    Option (Except Error Message) × TimedNetwork :=
  completionFrom { p with limit? := none } t.agenda.now Timed.patience t

/-- Waits for the next message that answers no request of the channel. -/
def nextEvent (number : Nat) (limit? : Option Nat) (t : TimedNetwork) :
    Option (Except Error Message) × TimedNetwork :=
  awaitItem (fun s => s.takeEvent? number) limit?
    (fun limit => .noEventWithin (Duration.text limit))
    (t.agenda.now + limit?.getD patience) t

/-- Waits for the end of the session's connection; then whoever waits for an answer is told so. -/
def closed (t : TimedNetwork) : Option Unit × TimedNetwork :=
  Timed.await perform
    (fromSession fun s => if s.connection.closed then some ((), s.failRest) else none) patience t

/-- Applies a change to the session. -/
def withSession {β : Type} (f : Session → β × Session) (t : TimedNetwork) :
    Option β × TimedNetwork :=
  match t.state.session? with
  | none => (none, t)
  | some s =>
    let (b, s) := f s
    (some b, t.change fun n => { n with session? := some s })

/-- Sends a request on a channel of the session.  There is nothing to be had from a channel that was
never opened. -/
def invoke (number : Nat) (r : Request) (t : TimedNetwork) :
    Option (Except Error Pending) × TimedNetwork :=
  match t.state.session? with
  | none => (none, t)
  | some s =>
    match s.invoke? number r with
    | none => (none, t)
    | some (result, s) =>
      let t := t.change fun n => { n with session? := some s }
      (some result, if result.isOk then t.wakeWriter s.connection.id else t)

/-- Waits for the response to a request and lets the request go; a response that is no success is an
error. -/
def settled (p : Pending) (t : TimedNetwork) : Option (Except Error Response) × TimedNetwork :=
  let (result, t) := response p t
  let (_, t) := withSession (fun s => ((), s.letGo p)) t
  (result.map fun r => r.bind Response.succeeded, t)

/-- Sends a request on a channel of the session and waits for its response.  Bytes that are given are
what a peer outside the network sends a millisecond later, whatever becomes of the request, and all of
it is over only then. -/
def ask (number : Nat) (r : Request) (reply? : Option Bytes) (t : TimedNetwork) :
    Option (Except Error Response) × TimedNetwork :=
  let last := t.agenda.now + if reply?.isSome then 1 else 0
  let (result, t) := invoke number r t
  let t := match reply?, t.state.session? with
    | some bytes, some s => t.after 1 (.arrive s.connection.id bytes)
    | _, _ => t
  let (response, t) := match result with
    | some (.ok pending) => settled pending t
    | some (.error e) => (some (.error e), t)
    | none => (none, t)
  (response, t.rest (last - t.agenda.now))

end MediaControl.TimedNetwork
