import MediaControl.Wire.Stream

/-!
# The intake of a connection

The bytes of a stream are read piece by piece into a buffer, as many at a time as there is room for
behind those that make no message yet, and before every piece the messages that are complete are taken
out and handed on.  A head that is larger than the limit is noticed as soon as so many bytes of it
have been read, whatever has arrived behind them.

The body of a message stays at its place in the buffer, so the room that there will be depends on
whether somebody keeps a message that was taken out.  While somebody does, a buffer without room is
left to its bodies, and what makes no message yet moves into another one.  Otherwise the bytes move to
the front of the buffer, over places that are used up, if they fit there, or the buffer becomes at
least twice as large.

Main statements: `le_room_reserve` (the room that was asked for is there) and
`length_arrived_read_lt` (reading leaves fewer bytes to be read), which is why reading comes to an
end.
-/

set_option autoImplicit false

namespace MediaControl.Wire

/-- For how many bytes a new buffer has places at least. -/
def smallestBuffer : Nat := 8192

/-- For how many bytes of a body room is made at most before they arrive. -/
def farthestAhead : Nat := 65536

/-- Bytes on their way from a stream into messages. -/
structure Intake where
  /-- the bytes that have arrived and have yet to be read -/
  arrived : Bytes := []
  /-- the bytes that have been read and make no message yet -/
  buffer : Bytes := []
  /-- how many places are taken, by those bytes and by the ones before them that are used up -/
  filled : Nat := 0
  /-- how many places there are -/
  size : Nat := smallestBuffer
  /-- the messages whose bodies are among the bytes that are used up -/
  residents : List Message := []

namespace Intake

/-- Bytes arrive. -/
def receive (i : Intake) (bytes : Bytes) : Intake := { i with arrived := i.arrived ++ bytes }

/-- For how many bytes there is room. -/
def room (i : Intake) : Nat := i.size - i.filled

/-- Makes room for `n` bytes if there is too little.  `isKept` says which messages somebody keeps. -/
def reserve (isKept : Message → Bool) (n : Nat) (i : Intake) : Intake :=
  if n ≤ i.room then i
  else
    let length := i.buffer.length
    if i.residents.any isKept then
      { i with filled := length, size := max smallestBuffer (length + n), residents := [] }
    else if 2 * length ≤ i.filled && length + n ≤ i.size then
      { i with filled := length, residents := [] }
    else { i with size := max (2 * i.size) (i.filled + n), residents := [] }

/-- Makes room for the next bytes: for those of the body that has begun to arrive, up to a bound, and
in any case for one. -/
def makeRoom (isKept : Message → Bool) (i : Intake) : Intake :=
  (i.reserve isKept (min (missingLength i.buffer) farthestAhead)).reserve isKept 1

/-- Reads as many bytes as there is room for. -/
def read (i : Intake) : Intake :=
  let piece := i.arrived.take i.room
  { i with arrived := i.arrived.drop i.room, buffer := i.buffer ++ piece
           filled := i.filled + piece.length }

/-- All but `rest` has been taken out of the buffer. -/
def leave (rest : Bytes) (i : Intake) : Intake := { i with buffer := rest }

/-- A message has been taken out of the buffer, and all but `rest` with it. -/
def takeOut (m : Message) (rest : Bytes) (i : Intake) : Intake :=
  { i.leave rest with
    residents := if m.content.isSome then m :: i.residents else i.residents }

/-- The room that was asked for is there. -/
theorem le_room_reserve (isKept : Message → Bool) (n : Nat) (i : Intake) :
    n ≤ (i.reserve isKept n).room := by
  unfold reserve
  split
  · assumption
  · simp only
    split
    · simp only [room]
      omega
    · split
      · rename_i h
        simp only [Bool.and_eq_true, decide_eq_true_eq] at h
        simp only [room]
        omega
      · simp only [room]
        omega

@[simp] theorem arrived_reserve (isKept : Message → Bool) (n : Nat) (i : Intake) :
    (i.reserve isKept n).arrived = i.arrived := by
  unfold reserve
  simp only
  repeat' split
  all_goals rfl

@[simp] theorem buffer_reserve (isKept : Message → Bool) (n : Nat) (i : Intake) :
    (i.reserve isKept n).buffer = i.buffer := by
  unfold reserve
  simp only
  repeat' split
  all_goals rfl

theorem room_makeRoom_pos (isKept : Message → Bool) (i : Intake) : 0 < (i.makeRoom isKept).room :=
  le_room_reserve isKept 1 _

@[simp] theorem arrived_makeRoom (isKept : Message → Bool) (i : Intake) :
    (i.makeRoom isKept).arrived = i.arrived := by
  simp [makeRoom]

@[simp] theorem buffer_makeRoom (isKept : Message → Bool) (i : Intake) :
    (i.makeRoom isKept).buffer = i.buffer := by
  simp [makeRoom]

/-- Reading leaves fewer bytes to be read. -/
theorem length_arrived_read_lt {i : Intake} (hroom : 0 < i.room) (h : i.arrived ≠ []) :
    i.read.arrived.length < i.arrived.length := by
  have hlength := List.length_pos_iff.mpr h
  simp only [read, List.length_drop]
  omega

theorem length_buffer_read (i : Intake) :
    i.read.buffer.length + i.read.arrived.length = i.buffer.length + i.arrived.length := by
  simp only [read, List.length_append, List.length_take, List.length_drop]
  omega

/-- What the taker of the messages is like afterwards, why no more came, and the intake then. -/
structure Taken (σ : Type) where
  state : σ
  halt : Halt
  intake : Intake

/-- Reads whatever has arrived and hands on every complete message, up to the first fault.  `ended`
says that nothing more will arrive; `isKept` says which messages the taker still keeps. -/
def takeAll {σ : Type} (limit : Nat) (ended : Bool) (isKept : σ → Message → Bool)
    (hand : σ → Message → σ) (state : σ) (i : Intake) : Taken σ :=
  match _taken : takeFirst limit (ended && i.arrived.isEmpty) i.buffer with
  | (.ok (some m), rest) =>
    takeAll limit ended isKept hand (hand state m) (i.takeOut m rest)
  | (.error fault, rest) => ⟨state, .fault fault, i.leave rest⟩
  | (.ok none, rest) =>
    let i' := (i.leave rest).makeRoom (isKept state)
    if _waiting : i.arrived = [] then ⟨state, if ended then .ended else .waiting, i'⟩
    else takeAll limit ended isKept hand state i'.read
  termination_by 2 * i.arrived.length + i.buffer.length
  decreasing_by
    · have hlt := length_takeFirst_lt _taken
      simp only [takeOut, leave]
      omega
    · have hle := length_takeFirst_le _taken
      have hread := length_arrived_read_lt (room_makeRoom_pos (isKept state) (i.leave rest))
        (by simpa [leave] using _waiting)
      have hmoved := length_buffer_read ((i.leave rest).makeRoom (isKept state))
      simp only [arrived_makeRoom, buffer_makeRoom, leave] at hread hmoved ⊢
      omega

end Intake

end MediaControl.Wire
