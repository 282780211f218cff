import MediaControl.Proofs.Wire.Look

/-!
# Nothing is done by halves (SPEC_FULL §4.1)

A writer puts a message into a buffer in place, and measures what it wrote only then; what is too large
it cuts off again.  A reader takes a message away in place, the head first and then the body.  Neither
leaves anything half done: a message is written whole or not at all, and it is taken away whole, or
nothing but the line ends before it is.

Main statement: `codec_atomic`.
-/

set_option autoImplicit false

namespace MediaControl.Wire

/-! ## Writing in place -/

/-- Puts the message behind the bytes of the buffer, part by part: the start line, its end, and all that
follows. -/
def put (m : Message) (buffer : Bytes) : Bytes :=
  let buffer := buffer ++ Utf8.encode (m.startLine (messageLength m.otherLength))
  let buffer := buffer ++ lineEnd
  buffer ++ m.rest

/-- Writes the message into the buffer, and cuts the buffer off where it ended before, if more was
written than is allowed. -/
def writeInto (limit : Nat) (m : Message) (buffer : Bytes) : Except Fault Unit × Bytes :=
  let grown := put m buffer
  let written := grown.length - buffer.length
  if limit < written then (.error (.unwritable written limit), grown.take buffer.length)
  else (.ok (), grown)

theorem put_eq (m : Message) (buffer : Bytes) : put m buffer = buffer ++ m.encode := by
  simp only [put, Message.encode, lineBytes, List.append_assoc]

/-- What was written in place and measured was measured before and written, if it was small enough. -/
theorem writeInto_eq (limit : Nat) (m : Message) (buffer : Bytes) :
    writeInto limit m buffer = match encodeTo limit m buffer with
      | .ok written => (.ok (), written)
      | .error fault => (.error fault, buffer) := by
  have hwritten : (buffer ++ m.encode).length - buffer.length = m.encode.length := by
    rw [List.length_append, Nat.add_sub_cancel_left]
  simp only [writeInto, put_eq, hwritten, List.take_left, encodeTo]
  by_cases hlimit : m.encode.length ≤ limit
  · rw [if_neg (Nat.not_lt.mpr hlimit), if_pos hlimit]
  · rw [if_pos (Nat.not_le.mp hlimit), if_neg hlimit]

/-- A message is put behind what the buffer held, or the buffer is what it was. -/
theorem writeInto_cases (limit : Nat) (m : Message) (buffer : Bytes) :
    (m.encode.length ≤ limit ∧ encodeTo limit m buffer = .ok (buffer ++ m.encode) ∧
      writeInto limit m buffer = (.ok (), buffer ++ m.encode)) ∨
    ∃ fault, limit < m.encode.length ∧ encodeTo limit m buffer = .error fault ∧
      writeInto limit m buffer = (.error fault, buffer) := by
  rw [writeInto_eq, encodeTo]
  by_cases hlimit : m.encode.length ≤ limit
  · rw [if_pos hlimit]
    exact Or.inl ⟨hlimit, rfl, rfl⟩
  · rw [if_neg hlimit]
    exact Or.inr ⟨_, Nat.not_le.mp hlimit, rfl, rfl⟩

/-! ## Taking away in place -/

/-- A look at the rest of a buffer whose line ends were skipped sees the same. -/
theorem decode_dropWhile (limit : Nat) (buffer : Bytes) :
    decode limit (buffer.dropWhile isLineEnd) = decode limit buffer := by
  have hskipped := dropWhile_isLineEnd_idem buffer []
  rw [List.append_nil, List.append_nil] at hskipped
  rw [decode_eq, decode_eq, hskipped]

/-- A look that brings no message takes away the line ends at the front and nothing else, and another
one brings the same. -/
theorem decode_of_no_message {limit : Nat} {buffer rest : Bytes}
    {outcome : Except Fault (Option Message)} (h : decode limit buffer = (outcome, rest))
    (hnone : ∀ m, outcome ≠ .ok (some m)) :
    rest = buffer.dropWhile isLineEnd ∧ decode limit rest = (outcome, rest) := by
  have hlook := look_decode limit buffer
  have hrest : rest = buffer.dropWhile isLineEnd := by
    rw [h] at hlook
    cases hlook with
    | headless | bodyless | refused => rfl
    | taken => exact absurd rfl (hnone _)
  refine ⟨hrest, ?_⟩
  rw [hrest, decode_dropWhile, h, hrest]

/-- A look that brings a message takes away the line ends at the front, the head, and as many bytes of
body as the head states. -/
theorem decode_of_message {limit : Nat} {buffer rest : Bytes} {m : Message}
    (h : decode limit buffer = (.ok (some m), rest)) :
    ∃ (t : HeadText) (head : Head) (fields : Headers) (body : Bytes),
      buffer.dropWhile isLineEnd = t.bytes ++ (body ++ rest) ∧ t.Says head fields ∧
      body.length = head.bodyLength ∧ m = head.message body := by
  have hlook := look_decode limit buffer
  rw [h] at hlook
  cases hlook with
  | taken hbuffer hsaid hbody hroom => exact ⟨_, _, _, _, hbuffer, hsaid, hbody, rfl⟩

/-- Writing in place puts the bytes of the message behind what was there, if they keep to the limit, and
leaves the buffer as it was otherwise.  Taking away in place takes the line ends at the front; with a
message it takes the head and as many bytes as the head states, and without one it takes nothing else, so
that it comes to the same again. -/
theorem codec_atomic (limit : Nat) :
    (∀ m buffer,
      (m.encode.length ≤ limit ∧ encodeTo limit m buffer = .ok (buffer ++ m.encode) ∧
        writeInto limit m buffer = (.ok (), buffer ++ m.encode)) ∨
      ∃ fault, limit < m.encode.length ∧ encodeTo limit m buffer = .error fault ∧
        writeInto limit m buffer = (.error fault, buffer)) ∧
    ∀ buffer,
      (∀ outcome rest, decode limit buffer = (outcome, rest) → (∀ m, outcome ≠ .ok (some m)) →
        rest = buffer.dropWhile isLineEnd ∧ decode limit rest = (outcome, rest)) ∧
      ∀ m rest, decode limit buffer = (.ok (some m), rest) →
        ∃ (t : HeadText) (head : Head) (fields : Headers) (body : Bytes),
          buffer.dropWhile isLineEnd = t.bytes ++ (body ++ rest) ∧ t.Says head fields ∧
          body.length = head.bodyLength ∧ m = head.message body := by
  refine ⟨writeInto_cases limit, fun buffer => ⟨fun outcome rest h hnone => ?_, fun m rest h => ?_⟩⟩
  · exact decode_of_no_message h hnone
  · exact decode_of_message h

end MediaControl.Wire
