import MediaControl.Wire.Stream
import Mathlib.Data.List.Basic

/-!
# What comes out of a buffer

Taking every complete message out of a buffer follows the recursion of `drainFrom`: a message stands
before what comes out of the rest, and a wait or a fault ends the matter.

Main statements: `drain_of_message`, `drain_of_waiting` and `drain_of_fault`.
-/

set_option autoImplicit false

namespace MediaControl.Wire

variable {limit : Nat} {ended : Bool} {buffer rest : Bytes}

/-- The messages taken before stand before those that come. -/
def Drained.after (taken : List Message) (d : Drained) : Drained :=
  { d with messages := taken ++ d.messages }

@[simp] theorem Drained.messages_after (taken : List Message) (d : Drained) :
    (d.after taken).messages = taken ++ d.messages := rfl

@[simp] theorem Drained.halt_after (taken : List Message) (d : Drained) :
    (d.after taken).halt = d.halt := rfl

@[simp] theorem Drained.rest_after (taken : List Message) (d : Drained) :
    (d.after taken).rest = d.rest := rfl

theorem Drained.after_after (before taken : List Message) (d : Drained) :
    (d.after taken).after before = d.after (before ++ taken) := by
  simp [Drained.after]

theorem drainFrom_step (limit : Nat) (ended : Bool) (taken : List Message) (buffer : Bytes) :
    drainFrom limit ended taken buffer =
      match takeFirst limit ended buffer with
      | (.ok (some m), rest) => drainFrom limit ended (m :: taken) rest
      | (.ok none, rest) => ⟨taken.reverse, if ended then .ended else .waiting, rest⟩
      | (.error fault, rest) => ⟨taken.reverse, .fault fault, rest⟩ := by
  rw [drainFrom]
  split <;> rename_i htaken <;> rw [htaken]

/-- What was taken before only stands before the rest. -/
theorem drainFrom_eq (limit : Nat) (ended : Bool) (taken : List Message) (buffer : Bytes) :
    drainFrom limit ended taken buffer = (drain limit ended buffer).after taken.reverse := by
  induction hsize : buffer.length using Nat.strongRecOn generalizing taken buffer with
  | ind size ih =>
      rw [drain, drainFrom_step limit ended taken, drainFrom_step limit ended []]
      cases htaken : takeFirst limit ended buffer with
      | mk outcome rest =>
          cases outcome with
          | error fault => simp [Drained.after]
          | ok message? =>
              cases message? with
              | none => simp [Drained.after]
              | some m =>
                  have hless : rest.length < size := hsize ▸ length_takeFirst_lt htaken
                  simp only
                  rw [ih rest.length hless (m :: taken) rest rfl, ih rest.length hless [m] rest rfl]
                  simp [Drained.after]

/-- A message stands before what comes out of the rest. -/
theorem drain_of_message {m : Message} (h : takeFirst limit ended buffer = (.ok (some m), rest)) :
    drain limit ended buffer = (drain limit ended rest).after [m] := by
  rw [drain, drainFrom_step, h]
  exact drainFrom_eq limit ended [m] rest

/-- Where the next message has yet to arrive nothing comes out. -/
theorem drain_of_waiting (h : decode limit buffer = (.ok none, rest)) :
    drain limit false buffer = ⟨[], .waiting, rest⟩ := by
  have htaken : takeFirst limit false buffer = (.ok none, rest) := h
  rw [drain, drainFrom_step, htaken]
  rfl

/-- Nothing comes out behind a fault. -/
theorem drain_of_fault {fault : Fault} (h : takeFirst limit ended buffer = (.error fault, rest)) :
    drain limit ended buffer = ⟨[], .fault fault, rest⟩ := by
  rw [drain, drainFrom_step, h]
  rfl

end MediaControl.Wire
