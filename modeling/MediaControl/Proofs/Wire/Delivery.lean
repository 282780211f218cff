import MediaControl.Error
import MediaControl.Proofs.Wire.Drain
import MediaControl.Proofs.Wire.HeadLength

/-!
# Delivery in chunks (SPEC_FULL §4.1)

The bytes of a stream arrive in chunks, and how they are cut says nothing about the messages.  What is
decided about a buffer stays decided when more bytes arrive: a message that is complete stays the
first message, and a buffer that is refused stays refused, though perhaps for another reason.

Main statements: `drain_append_of_waiting` and `drain_append_of_fault` (what comes out of a buffer
comes out of any longer one) and `drainChunks_agrees` (chunks and the whole give the same messages, the
same verdict and the same rest).
-/

set_option autoImplicit false

namespace MediaControl.Wire

/-! ## Looking at a longer buffer -/

theorem readHead_append {n : Nat} {bytes : Bytes} (h : n ≤ bytes.length) (more : Bytes) :
    readHead n (bytes ++ more) = readHead n bytes := by
  rw [readHead, readHead, List.take_append_of_le_length h]

/-- Line ends that were skipped before more bytes arrived need not be skipped again. -/
theorem dropWhile_isLineEnd_idem (buffer more : Bytes) :
    (buffer.dropWhile isLineEnd ++ more).dropWhile isLineEnd =
      (buffer ++ more).dropWhile isLineEnd := by
  induction buffer with
  | nil => rfl
  | cons b rest ih =>
      by_cases hb : isLineEnd b = true
      · rw [List.dropWhile_cons_of_pos hb, List.cons_append, List.dropWhile_cons_of_pos hb, ih]
      · rw [List.dropWhile_cons_of_neg hb]

theorem dropWhile_isLineEnd_append {buffer : Bytes} (h : buffer.dropWhile isLineEnd ≠ [])
    (more : Bytes) :
    (buffer ++ more).dropWhile isLineEnd = buffer.dropWhile isLineEnd ++ more := by
  rw [List.dropWhile_append, if_neg (by simpa using h)]

theorem isLineEnd_head?_dropWhile (buffer : Bytes) :
    ∀ b ∈ (buffer.dropWhile isLineEnd).head?, isLineEnd b = false := by
  intro b hb
  have hhead := List.head?_dropWhile_not isLineEnd buffer
  rw [Option.mem_def] at hb
  rw [hb] at hhead
  simpa using hhead

/-- What came of one look at the buffer: the head is missing, or it was found, and then it is
unreadable, too large with its body, or waiting for its body, or its message is taken. -/
theorem decode_eq (limit : Nat) (buffer : Bytes) :
    decode limit buffer =
      match headLength (buffer.dropWhile isLineEnd) with
      | none =>
        if limit < (buffer.dropWhile isLineEnd).length then
          (.error (.unterminatedHead limit), buffer.dropWhile isLineEnd)
        else (.ok none, buffer.dropWhile isLineEnd)
      | some length => decodeHead limit length (buffer.dropWhile isLineEnd) := rfl

/-- A message that is complete stays the first message. -/
theorem decodeHead_append_of_message {limit length : Nat} {buffer rest : Bytes} {m : Message}
    (hlength : length ≤ buffer.length)
    (h : decodeHead limit length buffer = (.ok (some m), rest)) (more : Bytes) :
    decodeHead limit length (buffer ++ more) = (.ok (some m), rest ++ more) := by
  simp only [decodeHead, readHead_append hlength] at h ⊢
  cases hread : readHead length buffer with
  | error fault => simp [hread] at h
  | ok head =>
      simp only [hread] at h ⊢
      by_cases hlimit : limit < length + head.bodyLength
      · simp [hlimit] at h
      · by_cases hfew : areFewer (length + head.bodyLength) buffer = true
        · simp [hlimit, hfew] at h
        · have hthere : length + head.bodyLength ≤ buffer.length :=
            Nat.not_lt.mp fun hlt => hfew (areFewer_eq_true_iff.mpr hlt)
          have hthere' : ¬ areFewer (length + head.bodyLength) (buffer ++ more) = true := by
            rw [areFewer_eq_true_iff, List.length_append]
            omega
          have hbody : head.bodyLength ≤ (buffer.drop length).length := by
            rw [List.length_drop]
            omega
          rw [if_neg hlimit, if_neg hfew] at h
          rw [if_neg hlimit, if_neg hthere', List.drop_append_of_le_length hlength,
            List.take_append_of_le_length hbody, List.drop_append_of_le_length hbody]
          obtain ⟨hmessage, hrest⟩ := Prod.mk.inj h
          rw [hmessage, hrest]

/-- A head that is refused stays refused, and so does one that is found only later beyond the limit. -/
theorem decodeHead_fault_of_lt {limit length : Nat} (h : limit < length) (buffer : Bytes) :
    ∃ fault, decodeHead limit length buffer = (.error fault, buffer) := by
  rw [decodeHead]
  cases readHead length buffer with
  | error fault => exact ⟨fault, rfl⟩
  | ok head => exact ⟨.oversized head.bodyLength limit, if_pos (by omega)⟩

theorem decodeHead_append_of_fault {limit length : Nat} {buffer rest : Bytes} {fault : Fault}
    (hlength : length ≤ buffer.length)
    (h : decodeHead limit length buffer = (.error fault, rest)) (more : Bytes) :
    decodeHead limit length (buffer ++ more) = (.error fault, buffer ++ more) := by
  simp only [decodeHead, readHead_append hlength] at h ⊢
  cases hread : readHead length buffer with
  | error other =>
      simp only [hread] at h ⊢
      rw [(Prod.mk.inj h).1]
  | ok head =>
      simp only [hread] at h ⊢
      by_cases hlimit : limit < length + head.bodyLength
      · rw [if_pos hlimit] at h ⊢
        rw [(Prod.mk.inj h).1]
      · rw [if_neg hlimit] at h
        split at h <;> cases (Prod.mk.inj h).1

/-- A message that is taken out of a buffer is taken out of any longer one. -/
theorem decode_append_of_message {limit : Nat} {buffer rest : Bytes} {m : Message}
    (h : decode limit buffer = (.ok (some m), rest)) (more : Bytes) :
    decode limit (buffer ++ more) = (.ok (some m), rest ++ more) := by
  rw [decode_eq] at h ⊢
  cases hfound : headLength (buffer.dropWhile isLineEnd) with
  | none =>
      rw [hfound] at h
      simp only at h
      split at h <;> cases (Prod.mk.inj h).1
  | some length =>
      rw [hfound] at h
      have hne : buffer.dropWhile isLineEnd ≠ [] := fun hnil => by
        rw [hnil] at hfound
        cases hfound
      rw [dropWhile_isLineEnd_append hne, headLength_append_of_some hfound]
      exact decodeHead_append_of_message (headLength_le hfound) h more

/-- A buffer that waits leaves itself, without the line ends at its front. -/
theorem eq_of_decode_waiting {limit : Nat} {buffer rest : Bytes}
    (h : decode limit buffer = (.ok none, rest)) : rest = buffer.dropWhile isLineEnd := by
  rw [decode_eq] at h
  split at h
  · split at h
    · cases (Prod.mk.inj h).1
    · exact (Prod.mk.inj h).2.symm
  · rename_i length _
    rw [decodeHead] at h
    cases hread : readHead length (buffer.dropWhile isLineEnd) with
    | error fault =>
        rw [hread] at h
        cases (Prod.mk.inj h).1
    | ok head =>
        simp only [hread] at h
        split at h
        · cases (Prod.mk.inj h).1
        · split at h
          · exact (Prod.mk.inj h).2.symm
          · cases (Prod.mk.inj h).1

/-- After a wait, the bytes that arrive meet the buffer as if it had not been looked at. -/
theorem decode_append_of_waiting {limit : Nat} {buffer rest : Bytes}
    (h : decode limit buffer = (.ok none, rest)) (more : Bytes) :
    decode limit (buffer ++ more) = decode limit (rest ++ more) := by
  rw [eq_of_decode_waiting h, decode_eq, decode_eq, dropWhile_isLineEnd_idem]

/-- A buffer that is refused is refused whatever arrives. -/
theorem decode_append_of_fault {limit : Nat} {buffer rest : Bytes} {fault : Fault}
    (h : decode limit buffer = (.error fault, rest)) (more : Bytes) :
    ∃ fault' rest', decode limit (buffer ++ more) = (.error fault', rest') := by
  rw [decode_eq] at h ⊢
  cases hfound : headLength (buffer.dropWhile isLineEnd) with
  | none =>
      rw [hfound] at h
      simp only at h
      split at h
      · rename_i hover
        have hne : buffer.dropWhile isLineEnd ≠ [] := fun hnil => by
          rw [hnil] at hover
          exact absurd hover (Nat.not_lt_zero _)
        rw [dropWhile_isLineEnd_append hne]
        cases hlater : headLength (buffer.dropWhile isLineEnd ++ more) with
        | none =>
            refine ⟨_, _, if_pos ?_⟩
            rw [List.length_append]
            omega
        | some length =>
            have hlt := length_lt_of_headLength_append hfound hlater
            obtain ⟨fault', hfault⟩ := decodeHead_fault_of_lt (Nat.lt_trans hover hlt)
              (buffer.dropWhile isLineEnd ++ more)
            exact ⟨fault', _, hfault⟩
      · cases (Prod.mk.inj h).1
  | some length =>
      rw [hfound] at h
      have hne : buffer.dropWhile isLineEnd ≠ [] := fun hnil => by
        rw [hnil] at hfound
        cases hfound
      rw [dropWhile_isLineEnd_append hne, headLength_append_of_some hfound]
      exact ⟨fault, _, decodeHead_append_of_fault (headLength_le hfound) h more⟩

/-! ## What comes out of a longer buffer -/

theorem takeFirst_of_message {limit : Nat} {buffer rest : Bytes} {m : Message}
    (h : decode limit buffer = (.ok (some m), rest)) (ended : Bool) :
    takeFirst limit ended buffer = (.ok (some m), rest) := by
  cases ended with
  | false => exact h
  | true => simp only [takeFirst, decodeEnd, h, if_true]

theorem takeFirst_of_fault {limit : Nat} {buffer rest : Bytes} {fault : Fault}
    (h : decode limit buffer = (.error fault, rest)) (ended : Bool) :
    takeFirst limit ended buffer = (.error fault, rest) := by
  cases ended with
  | false => exact h
  | true => simp only [takeFirst, decodeEnd, h, if_true]

/-- A message that comes out of a buffer is complete there, whether or not the stream has ended. -/
theorem decode_of_takeFirst {limit : Nat} {ended : Bool} {buffer rest : Bytes} {m : Message}
    (h : takeFirst limit ended buffer = (.ok (some m), rest)) :
    decode limit buffer = (.ok (some m), rest) := by
  cases ended with
  | false => exact h
  | true =>
      simp only [takeFirst, if_true, decodeEnd] at h
      split at h
      · split at h <;> cases (Prod.mk.inj h).1
      · exact h

theorem takeFirst_congr {limit : Nat} {left right : Bytes}
    (h : decode limit left = decode limit right) (ended : Bool) :
    takeFirst limit ended left = takeFirst limit ended right := by
  cases ended with
  | false => exact h
  | true => simp only [takeFirst, decodeEnd, h]

theorem drain_congr {limit : Nat} {ended : Bool} {left right : Bytes}
    (h : takeFirst limit ended left = takeFirst limit ended right) :
    drain limit ended left = drain limit ended right := by
  rw [drain, drain, drainFrom_step, drainFrom_step, h]

/-- One look at a buffer at a time: it is refused, or it waits, or its first message comes out and the
rest is looked at. -/
theorem drain_induction (limit : Nat) {motive : Bytes → Prop}
    (refused : ∀ buffer rest fault, decode limit buffer = (.error fault, rest) →
      drain limit false buffer = ⟨[], .fault fault, rest⟩ → motive buffer)
    (waits : ∀ buffer rest, decode limit buffer = (.ok none, rest) →
      drain limit false buffer = ⟨[], .waiting, rest⟩ → motive buffer)
    (taken : ∀ buffer rest m, decode limit buffer = (.ok (some m), rest) →
      drain limit false buffer = (drain limit false rest).after [m] → motive rest → motive buffer)
    (buffer : Bytes) : motive buffer := by
  induction hsize : buffer.length using Nat.strongRecOn generalizing buffer with
  | ind size ih =>
      cases hdecode : decode limit buffer with
      | mk outcome rest =>
          have htaken : takeFirst limit false buffer = (outcome, rest) := hdecode
          cases outcome with
          | error fault => exact refused buffer rest fault hdecode (drain_of_fault htaken)
          | ok message? =>
              cases message? with
              | none => exact waits buffer rest hdecode (drain_of_waiting hdecode)
              | some m =>
                  have hrest := ih rest.length (hsize ▸ length_decode_lt hdecode) rest rfl
                  exact taken buffer rest m hdecode (drain_of_message htaken) hrest

/-- A stream that has not ended is not found to have ended. -/
theorem drain_ne_ended (limit : Nat) (buffer : Bytes) :
    (drain limit false buffer).halt ≠ .ended := by
  induction buffer using drain_induction limit with
  | refused buffer rest fault hdecode hdrain =>
      rw [hdrain]
      intro hended
      cases hended
  | waits buffer rest hdecode hdrain =>
      rw [hdrain]
      intro hended
      cases hended
  | taken buffer rest m hdecode hdrain ih =>
      rw [hdrain]
      exact ih

/-- What came out of a buffer that waits stands before what comes out of the rest of it and the bytes
that arrive, and this is so at the end of the stream as well. -/
theorem drain_append_of_waiting {limit : Nat} {buffer : Bytes}
    (h : (drain limit false buffer).halt = .waiting) (ended : Bool) (more : Bytes) :
    drain limit ended (buffer ++ more) =
      (drain limit ended ((drain limit false buffer).rest ++ more)).after
        (drain limit false buffer).messages := by
  induction buffer using drain_induction limit with
  | refused buffer rest fault hdecode hdrain =>
      rw [hdrain] at h
      cases h
  | waits buffer rest hdecode hdrain =>
      have hlater := takeFirst_congr (decode_append_of_waiting hdecode more) ended
      rw [drain_congr hlater, hdrain]
      rfl
  | taken buffer rest m hdecode hdrain ih =>
      have hlater : drain limit ended (buffer ++ more) =
          (drain limit ended (rest ++ more)).after [m] :=
        drain_of_message (takeFirst_of_message (decode_append_of_message hdecode more) ended)
      rw [hdrain] at h
      rw [hlater, ih h, hdrain]
      rfl

/-- A buffer that ends in a fault does so whatever arrives, behind the same messages, and at the end of
the stream as well. -/
theorem drain_append_of_fault {limit : Nat} {buffer : Bytes} {fault : Fault}
    (h : (drain limit false buffer).halt = .fault fault) (ended : Bool) (more : Bytes) :
    (∃ other, (drain limit ended (buffer ++ more)).halt = .fault other) ∧
      (drain limit ended (buffer ++ more)).messages = (drain limit false buffer).messages := by
  induction buffer using drain_induction limit with
  | refused buffer rest reason hdecode hdrain =>
      obtain ⟨other, rest', hrefused⟩ := decode_append_of_fault hdecode more
      have hlater : drain limit ended (buffer ++ more) = ⟨[], .fault other, rest'⟩ :=
        drain_of_fault (takeFirst_of_fault hrefused ended)
      rw [hdrain, hlater]
      exact ⟨⟨other, rfl⟩, rfl⟩
  | waits buffer rest hdecode hdrain =>
      rw [hdrain] at h
      cases h
  | taken buffer rest m hdecode hdrain ih =>
      have hlater : drain limit ended (buffer ++ more) =
          (drain limit ended (rest ++ more)).after [m] :=
        drain_of_message (takeFirst_of_message (decode_append_of_message hdecode more) ended)
      rw [hdrain] at h
      obtain ⟨hfault, hmessages⟩ := ih h
      rw [hdrain, hlater, Drained.halt_after, Drained.messages_after, Drained.messages_after,
        hmessages]
      exact ⟨hfault, rfl⟩

/-! ## Chunks -/

/-- Chunks arrive one after the other, and every complete message is taken out after each, up to the
first fault; `d` is what came out before. -/
def drainChunksFrom (limit : Nat) (d : Drained) : List Bytes → Drained
  | [] => d
  | chunk :: chunks =>
    match d.halt with
    | .fault _ => d
    | .waiting | .ended =>
      drainChunksFrom limit ((drain limit false (d.rest ++ chunk)).after d.messages) chunks

/-- Chunks arrive one after the other, and every complete message is taken out after each, up to the
first fault. -/
def drainChunks (limit : Nat) (chunks : List Bytes) : Drained :=
  drainChunksFrom limit ⟨[], .waiting, []⟩ chunks

/-- What came out of the chunks agrees with what comes out of the whole: it is the same, or both end
in a fault behind the same messages. -/
inductive Agrees (whole : Drained) : Drained → Prop
  | waiting (h : whole.halt = .waiting) : Agrees whole whole
  | fault {d : Drained} {fault other : Fault} (hwhole : whole.halt = .fault fault)
      (hhalt : d.halt = .fault other) (hmessages : d.messages = whole.messages) : Agrees whole d

theorem Agrees.self (limit : Nat) (buffer : Bytes) :
    Agrees (drain limit false buffer) (drain limit false buffer) := by
  cases hhalt : (drain limit false buffer).halt with
  | waiting => exact .waiting hhalt
  | ended => exact absurd hhalt (drain_ne_ended limit buffer)
  | fault fault => exact .fault hhalt hhalt rfl

/-- Agreement is kept by the chunks that follow. -/
theorem Agrees.drainChunksFrom {limit : Nat} {before : Bytes} {d : Drained}
    (h : Agrees (drain limit false before) d) (chunks : List Bytes) :
    Agrees (drain limit false (before ++ chunks.flatten)) (drainChunksFrom limit d chunks) := by
  induction chunks generalizing before d with
  | nil =>
      rw [List.flatten_nil, List.append_nil]
      exact h
  | cons chunk chunks ih =>
      rw [List.flatten_cons, ← List.append_assoc, Wire.drainChunksFrom]
      cases h with
      | waiting hwaiting =>
          rw [hwaiting]
          apply ih
          rw [← drain_append_of_waiting hwaiting]
          exact Agrees.self limit (before ++ chunk)
      | fault hwhole hhalt hmessages =>
          rw [hhalt]
          obtain ⟨⟨other, hother⟩, hsame⟩ := drain_append_of_fault hwhole false (chunk ++ chunks.flatten)
          rw [List.append_assoc]
          exact .fault hother hhalt (hmessages.trans hsame.symm)

/-- However a stream is cut, the same messages come out of it; one cut ends in a fault exactly if
every other does, and any fault is an error of framing; and where there is none, the same bytes are
left. -/
theorem drainChunks_agrees (limit : Nat) (chunks : List Bytes) :
    (drainChunks limit chunks).messages = (drain limit false chunks.flatten).messages ∧
    ((∃ fault, (drainChunks limit chunks).halt = .fault fault) ↔
      ∃ fault, (drain limit false chunks.flatten).halt = .fault fault) ∧
    (∀ fault, (Error.framing fault).kind = .framing) ∧
    ((∀ fault, (drain limit false chunks.flatten).halt ≠ .fault fault) →
      drainChunks limit chunks = drain limit false chunks.flatten ∧
      (drain limit false chunks.flatten).halt = .waiting) := by
  have hstart : Agrees (drain limit false []) ⟨[], .waiting, []⟩ := by
    rw [drain_of_waiting (show decode limit [] = (.ok none, []) from rfl)]
    exact .waiting rfl
  have hagrees : Agrees (drain limit false chunks.flatten) (drainChunks limit chunks) :=
    hstart.drainChunksFrom chunks
  generalize drainChunks limit chunks = cut at hagrees ⊢
  cases hagrees with
  | waiting hwaiting =>
      exact ⟨rfl, Iff.rfl, Error.kind_framing, fun _ => ⟨rfl, hwaiting⟩⟩
  | fault hwhole hhalt hmessages =>
      refine ⟨hmessages, ⟨fun _ => ⟨_, hwhole⟩, fun _ => ⟨_, hhalt⟩⟩, Error.kind_framing, ?_⟩
      intro hnone
      exact absurd hwhole (hnone _)

end MediaControl.Wire
