import MediaControl.Wire.Head

/-!
# Reading messages (SPEC_FULL §4.1)

Bytes arrive in pieces and are buffered.  `decode` takes the first message out of the buffer once all
of it has arrived; line ends between messages belong to none and are skipped.  `decodeEnd` does the
same at the end of the stream, where an unfinished message is a fault and white space is not.
-/

set_option autoImplicit false

namespace MediaControl.Wire

/-- The largest message where nothing else was said: one mebibyte. -/
def defaultLimit : Nat := 1048576

/-- A carriage return or a line feed. -/
def isLineEnd (b : UInt8) : Bool := b = 13 || b = 10

/-- Tab, line feed, form feed, carriage return or space. -/
def isSpace (b : UInt8) : Bool := b = 9 || b = 10 || b = 12 || b = 13 || b = 32

/-- How far the line under the eye has come: at its start, behind a lone carriage return, or
further. -/
inductive LineState where
  | start
  | return
  | inside
  deriving DecidableEq, Repr, Inhabited

/-- The length of the head at the front of the bytes, its empty line included, if that line is there;
`seen` bytes lie before. -/
def headLengthFrom (seen : Nat) : LineState → Bytes → Option Nat
  | _, [] => none
  | state, b :: rest =>
    if b = 10 then
      match state with
      | .inside => headLengthFrom (seen + 1) .start rest
      | _ => some (seen + 1)
    else if b = 13 && state = .start then headLengthFrom (seen + 1) .return rest
    else headLengthFrom (seen + 1) .inside rest

/-- The length of the head at the front of the bytes, its empty line included, if that line is
there. -/
def headLength (bytes : Bytes) : Option Nat := headLengthFrom 0 .start bytes

/-- There are fewer than `n` bytes.  No more of them are counted than `n`. -/
def areFewer : Nat → Bytes → Bool
  | 0, _ => false
  | _ + 1, [] => true
  | n + 1, _ :: rest => areFewer n rest

@[simp] theorem areFewer_eq_true_iff {n : Nat} {bytes : Bytes} :
    areFewer n bytes = true ↔ bytes.length < n := by
  induction n generalizing bytes with
  | zero => simp [areFewer]
  | succ n ih => cases bytes <;> simp [areFewer, ih]

/-- A message taken out of a buffer, or nothing yet, or the reason why there will be none; and what is
left of the buffer. -/
abbrev Decoded := Except Fault (Option Message) × Bytes

/-- Reads the first `length` bytes, which are a head. -/
def readHead (length : Nat) (bytes : Bytes) : Except Fault Head :=
  match Utf8.decode (bytes.take length) with
  | .error fault => .error (.headNotText fault)
  | .ok text => Head.read text

/-- Takes the message out of a buffer whose first `length` bytes are its head. -/
def decodeHead (limit length : Nat) (buffer : Bytes) : Decoded :=
  match readHead length buffer with
  | .error fault => (.error fault, buffer)
  | .ok head =>
    let total := length + head.bodyLength
    if limit < total then (.error (.oversized head.bodyLength limit), buffer)
    else if areFewer total buffer then (.ok none, buffer)
    else
      let behind := buffer.drop length
      (.ok (some (head.message (behind.take head.bodyLength))), behind.drop head.bodyLength)

/-- Takes the first message out of the buffer. -/
def decode (limit : Nat) (buffer : Bytes) : Decoded :=
  let buffer := buffer.dropWhile isLineEnd
  match headLength buffer with
  | none =>
    if limit < buffer.length then (.error (.unterminatedHead limit), buffer) else (.ok none, buffer)
  | some length => decodeHead limit length buffer

/-- How many bytes of its body have yet to arrive at a buffer that begins with the head of a message;
none, if it does not. -/
def missingLength (buffer : Bytes) : Nat :=
  match headLength buffer with
  | none => 0
  | some length =>
    match readHead length buffer with
    | .error _ => 0
    | .ok head => length + head.bodyLength - buffer.length

/-- Takes the first message out of the buffer when nothing more will arrive. -/
def decodeEnd (limit : Nat) (buffer : Bytes) : Decoded :=
  match decode limit buffer with
  | (.ok none, rest) =>
    if rest.all isSpace then (.ok none, []) else (.error (.truncated rest.length), rest)
  | decoded => decoded

/-- The message at the front of the bytes, all of which has arrived. -/
def decodeMessage (bytes : Bytes) : Except Fault Message :=
  match (decodeEnd Natural.max64 bytes).1 with
  | .ok (some m) => .ok m
  | .ok none => .error .noMessage
  | .error fault => .error fault

end MediaControl.Wire
