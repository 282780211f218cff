import MediaControl.Proofs.Wire.Atomic
import MediaControl.Proofs.Wire.Machine

/-!
# Bounds of the reader

The peer says how long a body is, and may say anything that fits into 64 bits; the limit may be the
largest number of 64 bits as well.  Nevertheless no buffer makes the machine stop, a message uses no more
bytes than the limit allows, and bytes that wait for the rest of their message are no more than that
either.  As a message uses at least one byte, calls one after the other come to an end.

Main statement: `Machine.reader_bounded`.
-/

set_option autoImplicit false

namespace MediaControl.Wire

variable {limit : Nat} {buffer rest : Bytes}

/-! ## What a look uses and what it leaves -/

/-- A message uses the bytes behind the line ends at the front, at least one of them and no more than the
limit allows. -/
theorem exists_used_of_message {m : Message} (h : decode limit buffer = (.ok (some m), rest)) :
    ∃ used, buffer.dropWhile isLineEnd = used ++ rest ∧ 1 ≤ used.length ∧ used.length ≤ limit := by
  have hless : rest.length < (buffer.dropWhile isLineEnd).length :=
    length_decode_lt ((decode_dropWhile limit buffer).trans h)
  have hlook := look_decode limit buffer
  rw [h] at hlook
  cases hlook with
  | @taken t head fields body _ hbuffer hsaid hbody hroom =>
      rw [← List.append_assoc] at hbuffer
      refine ⟨t.bytes ++ body, hbuffer, ?_, ?_⟩
      · rw [hbuffer, List.length_append] at hless
        omega
      · rw [List.length_append]
        exact hroom

/-- Bytes that wait for the rest of their message are no more than the limit allows. -/
theorem length_rest_of_waiting (h : decode limit buffer = (.ok none, rest)) : rest.length ≤ limit := by
  have hlook := look_decode limit buffer
  rw [h] at hlook
  generalize buffer.dropWhile isLineEnd = front at hlook
  cases hlook with
  | headless hnone hroom => exact hroom
  | @bodyless t head fields arrived hbuffer hsaid hmissing hroom =>
      rw [hbuffer, List.length_append]
      omega

/-! ## What is left between two chunks -/

theorem length_rest_drain_of_waiting (h : (drain limit false buffer).halt = .waiting) :
    (drain limit false buffer).rest.length ≤ limit := by
  induction buffer using drain_induction limit with
  | refused buffer rest fault hdecode hdrain =>
      rw [hdrain] at h
      cases h
  | waits buffer rest hdecode hdrain =>
      rw [hdrain]
      exact length_rest_of_waiting hdecode
  | taken buffer rest m hdecode hdrain ih =>
      rw [hdrain] at h ⊢
      exact ih h

/-- Whatever chunks arrived, bytes that wait for more are no more than the limit allows. -/
theorem length_rest_drainChunksFrom {d : Drained} {chunks : List Bytes}
    (hd : d.halt = .waiting → d.rest.length ≤ limit)
    (h : (drainChunksFrom limit d chunks).halt = .waiting) :
    (drainChunksFrom limit d chunks).rest.length ≤ limit := by
  induction chunks generalizing d with
  | nil => exact hd h
  | cons chunk chunks ih =>
      rw [drainChunksFrom] at h ⊢
      cases hhalt : d.halt with
      | fault fault =>
          simp only [hhalt] at h
          cases h
      | waiting | ended =>
          simp only [hhalt] at h
          exact ih length_rest_drain_of_waiting h

theorem length_rest_drainChunks {chunks : List Bytes}
    (h : (drainChunks limit chunks).halt = .waiting) :
    (drainChunks limit chunks).rest.length ≤ limit :=
  length_rest_drainChunksFrom (fun _ => Nat.zero_le _) h

namespace Machine

/-! ## Calls one after the other -/

/-- Calls one after the other, each on the bytes that the one before has left, up to the first that
brings no message: the messages, and what the last call comes to. -/
inductive Calls (limit : UInt64) : Bytes → List Message → Decoded → Prop
  | last {buffer : Bytes} {seen : Seen} (hcall : decode limit buffer = .ok seen)
      (hnone : ∀ m, seen.decoded.1 ≠ .ok (some m)) : Calls limit buffer [] seen.decoded
  | next {buffer rest : Bytes} {m : Message} {wanted : UInt64} {ms : List Message} {last : Decoded}
      (hcall : decode limit buffer = .ok ⟨(.ok (some m), rest), wanted⟩)
      (hcalls : Calls limit rest ms last) : Calls limit buffer (m :: ms) last

theorem Calls.no_message {limit : UInt64} {buffer : Bytes} {ms : List Message} {last : Decoded}
    (h : Calls limit buffer ms last) (m : Message) : last.1 ≠ .ok (some m) := by
  induction h with
  | last hcall hnone => exact hnone m
  | next hcall hcalls ih => exact ih

/-- There is one way only for the calls to go. -/
theorem Calls.unique {limit : UInt64} {buffer : Bytes} {ms others : List Message}
    {last other : Decoded} (h : Calls limit buffer ms last) (h' : Calls limit buffer others other) :
    ms = others ∧ last = other := by
  induction h generalizing others with
  | last hcall hnone =>
      cases h' with
      | last hcall' hnone' =>
          cases hcall.symm.trans hcall'
          exact ⟨rfl, rfl⟩
      | next hcall' hcalls' =>
          cases hcall.symm.trans hcall'
          exact absurd rfl (hnone _)
  | next hcall hcalls ih =>
      cases h' with
      | last hcall' hnone' =>
          cases hcall.symm.trans hcall'
          exact absurd rfl (hnone' _)
      | next hcall' hcalls' =>
          cases hcall.symm.trans hcall'
          obtain ⟨rfl, rfl⟩ := ih hcalls'
          exact ⟨rfl, rfl⟩

/-- The calls come to an end, with the messages that `drain` takes out and the bytes that it leaves. -/
theorem exists_calls (limit : UInt64) {buffer : Bytes} (hsize : buffer.length < UInt64.size) :
    ∃ last : Decoded, Calls limit buffer (drain limit.toNat false buffer).messages last ∧
      last.2 = (drain limit.toNat false buffer).rest := by
  obtain ⟨wanted, hcall, -⟩ := decode_eq limit hsize
  induction buffer using drain_induction limit.toNat generalizing wanted with
  | refused buffer rest fault hdecode hdrain =>
      rw [hdecode] at hcall
      rw [hdrain]
      exact ⟨_, .last hcall (by simp), rfl⟩
  | waits buffer rest hdecode hdrain =>
      rw [hdecode] at hcall
      rw [hdrain]
      exact ⟨_, .last hcall (by simp), rfl⟩
  | taken buffer rest m hdecode hdrain ih =>
      rw [hdecode] at hcall
      -- what is left is shorter, so that the machine can hold it as well
      have hless : rest.length < UInt64.size := (length_decode_lt hdecode).trans hsize
      obtain ⟨more, hnext, -⟩ := decode_eq limit hless
      obtain ⟨last, hcalls, hrest⟩ := ih hless more hnext
      rw [hdrain]
      exact ⟨last, .next hcall hcalls, hrest⟩

end Machine

/-- There are no more messages in a buffer than bytes. -/
theorem length_messages_drain_le (limit : Nat) (buffer : Bytes) :
    (drain limit false buffer).messages.length + (drain limit false buffer).rest.length ≤
      buffer.length := by
  induction buffer using drain_induction limit with
  | refused buffer rest fault hdecode hdrain | waits buffer rest hdecode hdrain =>
      rw [hdrain, List.length_nil, Nat.zero_add]
      exact length_decode_le hdecode
  | taken buffer rest m hdecode hdrain ih =>
      have hless := length_decode_lt hdecode
      rw [hdrain, Drained.messages_after, Drained.rest_after, List.length_append,
        List.length_singleton]
      omega

/-- A buffer as a machine can hold it: its length is a word. -/
structure Machine.Buffer where
  bytes : Bytes
  length_lt : bytes.length < UInt64.size

/-- Whatever the buffer and the limit, the machine does not stop, and does what `decode` does; a message
uses at least one byte and no more than the limit allows; bytes that wait are no more than the limit
allows, so that with the next chunk they are that much more at most; and calls one after the other come
to an end, after no more messages than there are bytes. -/
theorem Machine.reader_bounded (limit : UInt64) (buffer : Buffer) :
    (∃ wanted, Machine.decode limit buffer.bytes =
        .ok ⟨Wire.decode limit.toNat buffer.bytes, wanted⟩ ∧
      wanted.toNat = (Wire.decode limit.toNat buffer.bytes).wanted) ∧
    (∀ m rest, Wire.decode limit.toNat buffer.bytes = (.ok (some m), rest) →
      ∃ used, buffer.bytes.dropWhile isLineEnd = used ++ rest ∧ 1 ≤ used.length ∧
        used.length ≤ limit.toNat) ∧
    (∀ rest, Wire.decode limit.toNat buffer.bytes = (.ok none, rest) → rest.length ≤ limit.toNat) ∧
    (∀ chunks chunk, (drainChunks limit.toNat chunks).halt = .waiting →
      ((drainChunks limit.toNat chunks).rest ++ chunk).length ≤ limit.toNat + chunk.length) ∧
    ∃ last : Decoded, (∀ ms other, Calls limit buffer.bytes ms other ↔
        ms = (drain limit.toNat false buffer.bytes).messages ∧ other = last) ∧
      (∀ m, last.1 ≠ .ok (some m)) ∧
      (drain limit.toNat false buffer.bytes).messages.length + last.2.length ≤
        buffer.bytes.length := by
  refine ⟨decode_eq limit buffer.length_lt, fun m rest h => exists_used_of_message h,
    fun rest h => length_rest_of_waiting h, fun chunks chunk h => ?_, ?_⟩
  · have hrest := length_rest_drainChunks h
    rw [List.length_append]
    omega
  · obtain ⟨last, hcalls, hrest⟩ := exists_calls limit buffer.length_lt
    refine ⟨last, fun ms other => ⟨fun h => h.unique hcalls, ?_⟩, hcalls.no_message, ?_⟩
    · rintro ⟨rfl, rfl⟩
      exact hcalls
    · rw [hrest]
      exact length_messages_drain_le limit.toNat buffer.bytes

end MediaControl.Wire
