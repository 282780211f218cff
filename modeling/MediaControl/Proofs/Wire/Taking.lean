import MediaControl.Proofs.Wire.Accepted
import MediaControl.Wire.Intake

/-!
# Streams that are read piece by piece

A connection reads as many bytes at a time as it has room for, and takes out what is complete before it
reads on.  When its stream has ended and everything was read, what is left must be white space.  However
the reading goes, the messages are those of the whole stream, and so is the verdict.

Main statements: `drain_ended` (what the end of a stream changes) and `Intake.takeAll_agrees` (pieces
and the whole).
-/

set_option autoImplicit false

namespace MediaControl.Wire

/-! ## The end of a stream -/

/-- What is left of a buffer that waits goes on waiting. -/
theorem decode_rest_of_waiting {limit : Nat} {buffer : Bytes}
    (h : (drain limit false buffer).halt = .waiting) :
    decode limit (drain limit false buffer).rest = (.ok none, (drain limit false buffer).rest) := by
  induction buffer using drain_induction limit with
  | refused buffer rest fault hdecode hdrain =>
      rw [hdrain] at h
      cases h
  | waits buffer rest hdecode hdrain =>
      have hagain := decode_append_of_waiting hdecode []
      rw [List.append_nil, List.append_nil, hdecode] at hagain
      rw [hdrain]
      exact hagain.symm
  | taken buffer rest m hdecode hdrain ih =>
      rw [hdrain] at h ⊢
      exact ih h

/-- What comes of the end of a stream that waits. -/
theorem takeFirst_ended_of_waiting {limit : Nat} {buffer rest : Bytes}
    (h : decode limit buffer = (.ok none, rest)) :
    takeFirst limit true buffer =
      if rest.all isSpace then (.ok none, []) else (.error (.truncated rest.length), rest) := by
  simp only [takeFirst, decodeEnd, h, if_true]

theorem drain_of_none {limit : Nat} {ended : Bool} {buffer rest : Bytes}
    (h : takeFirst limit ended buffer = (.ok none, rest)) :
    drain limit ended buffer = ⟨[], if ended then .ended else .waiting, rest⟩ := by
  rw [drain, drainFrom_step, h]
  rfl

/-- Nothing was refused, and what is left of the bytes is white space: the stream may end here. -/
def Drained.isClean (d : Drained) : Bool := d.halt = .waiting && d.rest.all isSpace

/-- The end of a stream brings no message.  It is an end between two messages if nothing was refused
before and what is left is white space, and a fault otherwise. -/
theorem drain_ended (limit : Nat) (bytes : Bytes) :
    (drain limit true bytes).messages = (drain limit false bytes).messages ∧
      if (drain limit false bytes).isClean then (drain limit true bytes).halt = .ended
      else ∃ fault, (drain limit true bytes).halt = .fault fault := by
  cases hhalt : (drain limit false bytes).halt with
  | ended => exact absurd hhalt (drain_ne_ended limit bytes)
  | fault fault =>
      have hfault := drain_append_of_fault hhalt true []
      rw [List.append_nil] at hfault
      have hclean : (drain limit false bytes).isClean = false := by simp [Drained.isClean, hhalt]
      rw [hclean, if_neg Bool.false_ne_true]
      exact ⟨hfault.2, hfault.1⟩
  | waiting =>
      have hwaiting := drain_append_of_waiting hhalt true []
      rw [List.append_nil, List.append_nil] at hwaiting
      have hlast := takeFirst_ended_of_waiting (decode_rest_of_waiting hhalt)
      have hclean : (drain limit false bytes).isClean = (drain limit false bytes).rest.all isSpace := by
        simp [Drained.isClean, hhalt]
      rw [hclean, hwaiting]
      split at hlast
      · rename_i hspace
        rw [if_pos hspace, drain_of_none hlast]
        exact ⟨List.append_nil _, rfl⟩
      · rename_i hspace
        rw [if_neg hspace, drain_of_fault hlast]
        exact ⟨List.append_nil _, _, rfl⟩

theorem halt_drain_ended_iff {limit : Nat} {bytes : Bytes} :
    (drain limit true bytes).halt = .ended ↔ (drain limit false bytes).isClean = true := by
  have hverdict := (drain_ended limit bytes).2
  split at hverdict
  · rename_i hclean
    exact iff_of_true hverdict hclean
  · rename_i hclean
    obtain ⟨fault, hfault⟩ := hverdict
    refine iff_of_false (fun hended => ?_) hclean
    cases hfault.symm.trans hended

/-- Every message that comes out of a stream is one of the reader's. -/
theorem fromWire_of_mem_drain {limit : Nat} {bytes : Bytes} :
    ∀ m ∈ (drain limit false bytes).messages, m.FromWire := by
  induction bytes using drain_induction limit with
  | refused buffer rest fault hdecode hdrain =>
      rw [hdrain]
      intro m hm
      cases hm
  | waits buffer rest hdecode hdrain =>
      rw [hdrain]
      intro m hm
      cases hm
  | taken buffer rest m hdecode hdrain ih =>
      rw [hdrain]
      exact List.forall_mem_cons.mpr ⟨(accepted_of_decode hdecode).1, ih⟩

/-! ## Pieces -/

namespace Intake

variable {σ : Type} {limit : Nat} {ended : Bool}

theorem buffer_append_arrived_read (i : Intake) :
    i.read.buffer ++ i.read.arrived = i.buffer ++ i.arrived := by
  simp [read]

/-- A message that is complete in what was read is the first of all that has arrived. -/
theorem takeFirst_all_of_message {i : Intake} {rest : Bytes} {m : Message}
    (h : takeFirst limit (ended && i.arrived.isEmpty) i.buffer = (.ok (some m), rest)) :
    takeFirst limit ended (i.buffer ++ i.arrived) = (.ok (some m), rest ++ i.arrived) := by
  cases harrived : i.arrived with
  | nil =>
      rw [harrived, List.isEmpty_nil, Bool.and_true] at h
      rw [List.append_nil, List.append_nil, h]
  | cons b bytes =>
      rw [harrived, List.isEmpty_cons, Bool.and_false] at h
      exact takeFirst_of_message (decode_append_of_message h _) ended

/-- What was read and is refused is refused with all that has arrived. -/
theorem takeFirst_all_of_fault {i : Intake} {rest : Bytes} {fault : Fault}
    (h : takeFirst limit (ended && i.arrived.isEmpty) i.buffer = (.error fault, rest)) :
    ∃ other rest', takeFirst limit ended (i.buffer ++ i.arrived) = (.error other, rest') := by
  cases harrived : i.arrived with
  | nil =>
      rw [harrived, List.isEmpty_nil, Bool.and_true] at h
      rw [List.append_nil]
      exact ⟨fault, rest, h⟩
  | cons b bytes =>
      rw [harrived, List.isEmpty_cons, Bool.and_false] at h
      obtain ⟨other, rest', hrefused⟩ := decode_append_of_fault h (b :: bytes)
      exact ⟨other, rest', takeFirst_of_fault hrefused ended⟩

/-- What was read and waits makes no difference to what comes of all that has arrived, if there is more
of it. -/
theorem takeFirst_all_of_waiting {i : Intake} {rest : Bytes} (hmore : i.arrived ≠ [])
    (h : takeFirst limit (ended && i.arrived.isEmpty) i.buffer = (.ok none, rest)) :
    takeFirst limit ended (i.buffer ++ i.arrived) = takeFirst limit ended (rest ++ i.arrived) := by
  rw [List.isEmpty_eq_false_iff.mpr hmore, Bool.and_false] at h
  exact takeFirst_congr (decode_append_of_waiting h i.arrived) ended

/-- What was taken piece by piece agrees with what comes out of the whole: the taker was handed the same
messages, and either both came to the same halt with the same rest, or both to a fault. -/
inductive Agrees (hand : σ → Message → σ) (state : σ) (whole : Drained) (t : Taken σ) : Prop
  | rest (hstate : t.state = whole.messages.foldl hand state) (hhalt : t.halt = whole.halt)
      (hbuffer : t.intake.buffer = whole.rest) (harrived : t.intake.arrived = [])
  | fault {fault other : Fault} (hstate : t.state = whole.messages.foldl hand state)
      (hwhole : whole.halt = .fault fault) (hhalt : t.halt = .fault other)

theorem Agrees.after {hand : σ → Message → σ} {state : σ} {m : Message} {whole : Drained}
    {t : Taken σ} (h : Agrees hand (hand state m) whole t) : Agrees hand state (whole.after [m]) t := by
  cases h with
  | rest hstate hhalt hbuffer harrived => exact .rest hstate hhalt hbuffer harrived
  | fault hstate hwhole hhalt => exact .fault hstate hwhole hhalt

section

variable {hand : σ → Message → σ} {state : σ} {whole : Drained} {t : Taken σ}

/-- The taker was handed the messages of the whole. -/
theorem Agrees.state_eq (h : Agrees hand state whole t) :
    t.state = whole.messages.foldl hand state := by
  cases h with
  | rest hstate => exact hstate
  | fault hstate => exact hstate

/-- Where there is no fault, nothing tells the pieces from the whole. -/
theorem Agrees.rest_eq (h : Agrees hand state whole t) (hwhole : ∀ fault, whole.halt ≠ .fault fault) :
    t.halt = whole.halt ∧ t.intake.buffer = whole.rest ∧ t.intake.arrived = [] := by
  cases h with
  | rest _ hhalt hbuffer harrived => exact ⟨hhalt, hbuffer, harrived⟩
  | fault _ hfault => exact absurd hfault (hwhole _)

/-- Where there is a fault, there is one in the pieces. -/
theorem Agrees.fault_of_fault (h : Agrees hand state whole t) {fault : Fault}
    (hwhole : whole.halt = .fault fault) : ∃ other, t.halt = .fault other := by
  cases h with
  | rest _ hhalt => exact ⟨fault, hhalt.trans hwhole⟩
  | fault _ _ hhalt => exact ⟨_, hhalt⟩

end

/-- Pieces of a stream that has ended halt as the whole does: at its end, or at a fault. -/
theorem Agrees.halt_of_ended {hand : σ → Message → σ} {state : σ} {bytes : Bytes} {t : Taken σ}
    (h : Agrees hand state (drain limit true bytes) t) :
    t.halt ≠ .waiting ∧ (t.halt = .ended ↔ (drain limit true bytes).halt = .ended) := by
  have hverdict := (drain_ended limit bytes).2
  split at hverdict
  · obtain ⟨htaken, -, -⟩ := h.rest_eq fun fault hfault => by cases hfault.symm.trans hverdict
    rw [htaken, hverdict]
    exact ⟨by decide, Iff.rfl⟩
  · obtain ⟨fault, hfault⟩ := hverdict
    obtain ⟨other, hother⟩ := h.fault_of_fault hfault
    rw [hother, hfault]
    exact ⟨by simp, by simp⟩

/-- Whoever takes the messages, and whichever of them are kept, reading piece by piece agrees with
taking them out of all that has arrived. -/
theorem takeAll_agrees (limit : Nat) (ended : Bool) (isKept : σ → Message → Bool)
    (hand : σ → Message → σ) (state : σ) (i : Intake) :
    Agrees hand state (drain limit ended (i.buffer ++ i.arrived))
      (takeAll limit ended isKept hand state i) := by
  -- one look at the buffer after the other; what is said of the buffer holds of all that has arrived
  fun_induction takeAll limit ended isKept hand state i with
  | case1 state i m rest htaken ih =>
      rw [drain_of_message (takeFirst_all_of_message htaken)]
      exact ih.after
  | case2 state i fault rest htaken =>
      obtain ⟨other, rest', hrefused⟩ := takeFirst_all_of_fault htaken
      rw [drain_of_fault hrefused]
      exact .fault rfl rfl rfl
  | case3 state i rest htaken i' hwaiting =>
      rw [hwaiting, List.isEmpty_nil, Bool.and_true] at htaken
      rw [hwaiting, List.append_nil, drain_of_none htaken]
      refine .rest rfl rfl ?_ ?_
      · exact buffer_makeRoom _ _
      · exact (arrived_makeRoom _ _).trans hwaiting
  | case4 state i rest htaken i' hmore ih =>
      have hall : i'.read.buffer ++ i'.read.arrived = rest ++ i.arrived := by
        rw [buffer_append_arrived_read]
        exact congrArg₂ _ (buffer_makeRoom _ _) (arrived_makeRoom _ _)
      rw [drain_congr (takeFirst_all_of_waiting hmore htaken), ← hall]
      exact ih

end Intake

end MediaControl.Wire
