import MediaControl.ChannelTable
import MediaControl.Connection

/-!
# A connection under observation

A connection whose messages go to named takers, and what can be seen from outside when it has come
to rest: what the takers were given and told, and the bytes that left.
-/

set_option autoImplicit false

namespace MediaControl

/-- A connection whose messages go to named takers. -/
structure Watched where
  connection : Connection
  takers : ChannelTable String := {}
  /-- the peer has let go of the stream -/
  isAbandoned : Bool := false
  /-- the peer has seen the end of what is sent to it -/
  sawEnd : Bool := false

/-- What a taker, or whoever looks after messages without one, has seen. -/
inductive Sighting where
  | delivered (taker : String) (m : Message)
  | unrouted (reason : Unrouted) (m : Message)
  /-- the taker was told that the connection has stopped -/
  | closed (taker : String) (reason : Error)

namespace Watched

/-- Where a message goes. -/
def sight (w : Watched) (m : Message) : Sighting :=
  match ChannelTable.route w.takers m with
  | .ok taker => .delivered taker m
  | .error reason => .unrouted reason m

/-- The takers that are told of the end, in the order of their names. -/
def told (w : Watched) : List String :=
  w.takers.values.mergeSort fun a b => !(b < a)

/-- The peer lets go of the stream. -/
def abandon (w : Watched) : Watched :=
  { w with connection := w.connection.endInput, isAbandoned := true }

/-- The connection has come to rest after bytes were written. -/
def rest (w : Watched) (written : Bytes) (connection : Connection) : Bytes × Watched :=
  if w.isAbandoned then ([], { w with connection })
  else (written, { w with connection, sawEnd := w.sawEnd || !connection.writing })

/-- What is seen, and the bytes that leave, until the connection has come to rest.  The takers look at
a message and do not keep it. -/
def settle (w : Watched) : List Sighting × Bytes × Watched :=
  let (before, connection) := w.connection.write
  let pumped := connection.pump (fun _ _ => false) (fun seen m => seen.push (w.sight m)) #[]
  let sightings := pumped.state.toList
  let connection := connection.afterPump pumped
  match pumped.stopped with
  | none => (sightings, w.rest before connection)
  | some reason =>
    let (behind, last) := connection.close.write
    (sightings ++ w.told.map (.closed · reason), w.rest (before ++ behind) last)

end Watched

end MediaControl
