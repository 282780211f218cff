import MediaControl.Wire.Decode

/-!
# Streams of messages (SPEC_FULL §4.1)

What a buffer holds in the end: every message that is complete, and then either the wait for more
bytes, the end of the stream, or a fault.

Main statement: `length_decode_lt` (a message taken out of a buffer leaves fewer bytes there), which is
why taking messages out comes to an end.
-/

set_option autoImplicit false

namespace MediaControl.Wire

theorem headLengthFrom_bounds {seen n : Nat} {state : LineState} {bytes : Bytes}
    (h : headLengthFrom seen state bytes = some n) : seen < n ∧ n ≤ seen + bytes.length := by
  induction bytes generalizing seen state with
  | nil => simp [headLengthFrom] at h
  | cons b rest ih =>
    simp only [List.length_cons]
    cases state <;> simp only [headLengthFrom] at h <;> repeat' split at h
    all_goals first
      | (injection h with h; omega)
      | (have hrest := ih h; omega)

theorem length_dropWhile_le {α : Type} (p : α → Bool) (s : List α) :
    (s.dropWhile p).length ≤ s.length := by
  simpa using (List.dropWhile_sublist p).length_le

/-- A message taken out of a buffer leaves fewer bytes there. -/
theorem length_decode_lt {limit : Nat} {buffer rest : Bytes} {m : Message}
    (h : decode limit buffer = (.ok (some m), rest)) : rest.length < buffer.length := by
  have hle := length_dropWhile_le isLineEnd buffer
  unfold decode at h
  simp only at h
  split at h
  · split at h <;> simp at h
  · rename_i length hlength
    have hbounds := headLengthFrom_bounds hlength
    unfold decodeHead at h
    simp only at h
    repeat' split at h
    all_goals simp at h
    obtain ⟨_, rfl⟩ := h
    simp only [List.length_drop]
    omega

/-- Whatever comes of looking at a buffer, it does not grow. -/
theorem length_decode_le {limit : Nat} {buffer rest : Bytes} {outcome : Except Fault (Option Message)}
    (h : decode limit buffer = (outcome, rest)) : rest.length ≤ buffer.length := by
  have hle := length_dropWhile_le isLineEnd buffer
  unfold decode at h
  simp only at h
  split at h
  · split at h <;> simp at h <;> obtain ⟨_, rfl⟩ := h <;> exact hle
  · unfold decodeHead at h
    simp only at h
    repeat' split at h
    all_goals simp at h
    all_goals
      obtain ⟨_, rfl⟩ := h
      try simp only [List.length_drop]
      omega

theorem length_decodeEnd_lt {limit : Nat} {buffer rest : Bytes} {m : Message}
    (h : decodeEnd limit buffer = (.ok (some m), rest)) : rest.length < buffer.length := by
  unfold decodeEnd at h
  split at h
  · split at h <;> simp at h
  · exact length_decode_lt h

/-- Takes the first message out of a buffer, whose stream may have ended. -/
def takeFirst (limit : Nat) (ended : Bool) (buffer : Bytes) : Decoded :=
  if ended then decodeEnd limit buffer else decode limit buffer

theorem length_takeFirst_lt {limit : Nat} {ended : Bool} {buffer rest : Bytes} {m : Message}
    (h : takeFirst limit ended buffer = (.ok (some m), rest)) : rest.length < buffer.length := by
  cases ended
  · exact length_decode_lt h
  · exact length_decodeEnd_lt h

/-- Whatever comes of taking the first message out of a buffer, it does not grow. -/
theorem length_takeFirst_le {limit : Nat} {ended : Bool} {buffer rest : Bytes}
    {outcome : Except Fault (Option Message)}
    (h : takeFirst limit ended buffer = (outcome, rest)) : rest.length ≤ buffer.length := by
  cases ended
  · exact length_decode_le h
  · unfold takeFirst decodeEnd at h
    simp only [if_true] at h
    split at h
    · rename_i hdecode
      have hle := length_decode_le hdecode
      split at h <;> simp at h <;> obtain ⟨_, rfl⟩ := h <;> simp [hle]
    · exact length_decode_le h

/-- Why no further message comes out of a buffer. -/
inductive Halt where
  /-- the rest of the next message has yet to arrive -/
  | waiting
  /-- the stream has ended between two messages -/
  | ended
  | fault (fault : Fault)
  deriving DecidableEq, Repr, Inhabited

/-- The fault, if it is one. -/
def Halt.fault? : Halt → Option Fault
  | .fault f => some f
  | .waiting | .ended => none

/-- What came out of a buffer. -/
structure Drained where
  messages : List Message
  halt : Halt
  rest : Bytes

/-- Takes every complete message out of the buffer; `taken` holds those taken before, last one
first. -/
def drainFrom (limit : Nat) (ended : Bool) (taken : List Message) (buffer : Bytes) : Drained :=
  match _taken : takeFirst limit ended buffer with
  | (.ok (some m), rest) => drainFrom limit ended (m :: taken) rest
  | (.ok none, rest) => ⟨taken.reverse, if ended then .ended else .waiting, rest⟩
  | (.error fault, rest) => ⟨taken.reverse, .fault fault, rest⟩
  termination_by buffer.length
  decreasing_by exact length_takeFirst_lt _taken

/-- Takes every complete message out of the buffer. -/
def drain (limit : Nat) (ended : Bool) (buffer : Bytes) : Drained := drainFrom limit ended [] buffer

/-- A message, or the fault that stood in its place. -/
abbrev Outcome := Except Fault Message

/-- Bytes that arrive one at a time, the buffer being looked at after each: what came out of it, with
the number of the byte that brought it, up to the first fault; and what is left of the buffer.  `index`
bytes came before, and `seen` is what came out of them, last one first. -/
def feedEachFrom (limit index : Nat) (seen : List (Nat × Outcome)) (buffer : Bytes) :
    Bytes → List (Nat × Outcome) × Bytes
  | [] => (seen.reverse, buffer)
  | b :: bytes =>
    match decode limit (buffer ++ [b]) with
    | (.ok none, rest) => feedEachFrom limit (index + 1) seen rest bytes
    | (.ok (some m), rest) => feedEachFrom limit (index + 1) ((index, .ok m) :: seen) rest bytes
    | (.error fault, rest) => (((index, .error fault) :: seen).reverse, rest)

/-- Bytes that arrive one at a time, the buffer being looked at after each. -/
def feedEach (limit : Nat) (buffer bytes : Bytes) : List (Nat × Outcome) × Bytes :=
  feedEachFrom limit 0 [] buffer bytes

end MediaControl.Wire
