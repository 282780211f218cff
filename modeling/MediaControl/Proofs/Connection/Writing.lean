import MediaControl.Connection
import Mathlib.Data.List.TakeWhile

/-!
# What a connection writes

The queue of a connection is written up to the first message that is beyond the limit.  If there is
none such, all of it is written and the connection stays as it is.

Main statement: `write_of_fits`.
-/

set_option autoImplicit false

namespace MediaControl.Connection

/-- The message keeps to the limit of the connection. -/
def Fits (c : Connection) (m : Message) : Prop := m.encode.length ≤ c.limit

instance (c : Connection) (m : Message) : Decidable (c.Fits m) := Nat.decLe _ _

theorem send_of_open {c : Connection} (h : c.closed = false) (m : Message) :
    c.send m = .ok { c with outbound := c.outbound ++ [m] } := by
  have hopen : ¬ c.closed = true := ne_true_of_eq_false h
  rw [send, if_neg hopen]

/-- Messages are written up to the first that is beyond the limit. -/
theorem writeAll_eq (limit : Nat) (written : Bytes) (ms : List Message) :
    writeAll limit written ms =
      (written ++ (ms.takeWhile fun m => m.encode.length ≤ limit).flatMap Message.encode,
        ms.all fun m => m.encode.length ≤ limit) := by
  induction ms generalizing written with
  | nil => simp [writeAll]
  | cons m ms ih =>
      rw [writeAll, Wire.encodeTo]
      by_cases hm : m.encode.length ≤ limit
      · simp [hm, ih]
      · simp [hm]

/-- What is queued on an open connection is written if all of it keeps to the limit, and the connection
stays open. -/
theorem write_of_fits {c : Connection} (hclosed : c.closed = false) (hwriting : c.writing = true)
    (hfits : ∀ m ∈ c.outbound, c.Fits m) :
    c.write = (c.outbound.flatMap Message.encode, { c with outbound := [] }) := by
  have hall : (c.outbound.all fun m => m.encode.length ≤ c.limit) = true :=
    List.all_eq_true.mpr fun m hm => decide_eq_true (hfits m hm)
  have htake : c.outbound.takeWhile (fun m => m.encode.length ≤ c.limit) = c.outbound :=
    List.takeWhile_eq_self_iff.mpr fun m hm => decide_eq_true (hfits m hm)
  rw [write, if_pos hwriting, writeAll_eq, hall, htake, List.nil_append]
  cases c with
  | mk id peer limit intake ended outbound closed reading writing =>
      obtain rfl : closed = false := hclosed
      obtain rfl : writing = true := hwriting
      rfl

/-! ## What writing leaves alone -/

section

variable (c : Connection)

theorem write_cases : ∃ outbound closed writing,
    c.write.2 = { c with outbound, closed, writing } ∧ (c.closed = true → closed = true) := by
  unfold write
  split
  · split
    · exact ⟨_, _, _, rfl, fun h => h⟩
    · exact ⟨_, _, _, rfl, fun _ => rfl⟩
  · exact ⟨_, _, _, rfl, fun h => h⟩

@[simp] theorem reading_write : c.write.2.reading = c.reading := by
  obtain ⟨_, _, _, hwrite, -⟩ := c.write_cases
  rw [hwrite]

theorem closed_write (h : c.closed = true) : c.write.2.closed = true := by
  obtain ⟨_, _, _, hwrite, hclosed⟩ := c.write_cases
  rw [hwrite]
  exact hclosed h

end

end MediaControl.Connection
