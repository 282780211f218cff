import MediaControl.Proofs.Connection.Writing
import MediaControl.Proofs.Service.Basic
import MediaControl.Proofs.Table

/-!
# What the moves of a service come to

Each move looks at one connection or one call, and does nothing or one thing.  A service of which no
connection, call or task has anything left to do has no move left.

Main statements: `take_cases`, `write_cases`, `notice_cases`, `quit_cases` and `turn_cases` (all that a
move can do), and `isQuiet_of_isIdle`.
-/

set_option autoImplicit false

namespace MediaControl

open Server (Turn)

namespace Service

/-! ## Connections -/

/-- What happens to a connection stops no reader, leaves its queue and its limit as they are, and does
not open it again. -/
structure Tame (f : Connection → Connection) : Prop where
  reading : ∀ c, (f c).reading = c.reading
  outbound : ∀ c, (f c).outbound = c.outbound
  limit : ∀ c, (f c).limit = c.limit
  closed : ∀ c, c.closed = true → (f c).closed = true

theorem offer_cases (c : Connection) (bytes : Bytes) :
    c.offer bytes = c.receive bytes ∨ c.offer bytes = c ∧ (c.ended = true ∨ c.closed = true) := by
  unfold Connection.offer
  split
  · exact .inl rfl
  · rename_i hdeaf
    refine .inr ⟨rfl, ?_⟩
    by_contra hneither
    simp only [not_or, Bool.not_eq_true] at hneither
    exact hdeaf (by simp [Connection.deafness?, hneither])

theorem readSome_cases (c : Connection) (size : Nat) :
    (c.reading = true → c.intake.arrived = []) ∧ c.readSome size = c ∨
      c.reading = true ∧ c.intake.arrived ≠ [] ∧ c.readSome size =
        { c with intake := { c.intake with size := c.intake.filled + size }.read } := by
  unfold Connection.readSome
  cases hreading : c.reading with
  | false => exact .inl ⟨fun h => (by cases h), rfl⟩
  | true =>
      by_cases hnone : c.intake.arrived = []
      · exact .inl ⟨fun _ => hnone, by simp [hnone]⟩
      · exact .inr ⟨rfl, hnone, by simp [hnone]⟩

theorem tame_offer (bytes : Bytes) : Tame fun c => c.offer bytes := by
  have hcases := fun c => offer_cases c bytes
  constructor <;> intro c <;> rcases hcases c with h | ⟨h, -⟩ <;> simp only [h, Connection.receive]
  all_goals exact id

theorem tame_readSome (size : Nat) : Tame fun c => c.readSome size := by
  have hcases := fun c => readSome_cases c size
  constructor <;> intro c <;> rcases hcases c with ⟨-, h⟩ | ⟨-, -, h⟩ <;> simp only [h]
  all_goals exact id

theorem tame_endInput : Tame Connection.endInput :=
  ⟨fun _ => rfl, fun _ => rfl, fun _ => rfl, fun _ => id⟩

theorem tame_leave (rest : Bytes) : Tame fun c => c.leave rest :=
  ⟨fun _ => rfl, fun _ => rfl, fun _ => rfl, fun _ => id⟩

theorem tame_quit : Tame Connection.quit :=
  ⟨fun _ => rfl, fun _ => rfl, fun _ => rfl, fun _ => id⟩

theorem tame_close : Tame Connection.close :=
  ⟨fun _ => rfl, fun _ => rfl, fun _ => rfl, fun _ _ => rfl⟩

theorem tame_giveUp : Tame Connection.giveUp :=
  ⟨fun _ => rfl, fun _ => rfl, fun _ => rfl, fun _ _ => rfl⟩

/-! ## What one step can do -/

section

variable {s : Service} {connection : Nat}

theorem isLive_of_connection? {c : Connection} (hc : s.connection? connection = some c)
    (hreading : c.reading = true) : s.history.isLive connection = true := by
  obtain ⟨l, hl, rfl⟩ := Option.map_eq_some_iff.mp hc
  rw [Server.History.isLive, hl]
  exact hreading

/-- What comes of a look for a message. -/
theorem take_cases (s : Service) (connection : Nat) :
    (∀ c, s.connection? connection = some c → c.reading = false) ∧ s.take connection = s ∨
    ∃ c, s.connection? connection = some c ∧ c.reading = true ∧
      ((∃ m rest, Wire.takeFirst c.limit c.isDone c.intake.buffer = (.ok (some m), rest) ∧
          s.take connection =
            (s.change connection fun c => c.leave rest).receive connection m) ∨
        (∃ rest, c.isDone = false ∧
          Wire.takeFirst c.limit c.isDone c.intake.buffer = (.ok none, rest) ∧
          s.take connection = s.change connection fun c => c.leave rest) ∨
        (c.isDone = true ∨
          ∃ fault rest, Wire.takeFirst c.limit c.isDone c.intake.buffer = (.error fault, rest)) ∧
          s.take connection = s.pass (.disconnect connection)) := by
  unfold take
  cases hc : s.connection? connection with
  | none => exact .inl ⟨fun c hc => (by cases hc), rfl⟩
  | some c =>
      cases hreading : c.reading with
      | false => exact .inl ⟨fun c' hc' => Option.some.inj hc' ▸ hreading, by simp [hreading]⟩
      | true =>
          refine .inr ⟨c, rfl, hreading, ?_⟩
          simp only [hreading, if_true]
          rcases htaken : Wire.takeFirst c.limit c.isDone c.intake.buffer with ⟨_ | m?, rest⟩
          · exact .inr (.inr ⟨.inr ⟨_, rest, rfl⟩, rfl⟩)
          · cases m? with
            | some m => exact .inl ⟨m, rest, rfl, rfl⟩
            | none =>
                cases hdone : c.isDone with
                | true => exact .inr (.inr ⟨.inl rfl, if_pos rfl⟩)
                | false => exact .inr (.inl ⟨rest, rfl, rfl, if_neg Bool.false_ne_true⟩)

/-- What comes of writing. -/
theorem write_cases (s : Service) (connection : Nat) :
    (∀ c, s.connection? connection = some c → c.writing = true → c.outbound = []) ∧
      s.write connection = s ∨
    ∃ c m rest, s.connection? connection = some c ∧ c.writing = true ∧ c.outbound = m :: rest ∧
      (c.Fits m ∧ s.write connection = s.pass (.drain connection) ∨
        ¬ c.Fits m ∧ s.write connection = s.change connection Connection.giveUp) := by
  cases hc : s.connection? connection with
  | none =>
      have hsame : s.write connection = s := by simp only [write, hc]
      exact .inl ⟨fun c hc => (by cases hc), hsame⟩
  | some c =>
      cases hwriting : c.writing with
      | false =>
          have hsame : s.write connection = s := by
            simp only [write, hc, hwriting, Bool.false_eq_true, if_false]
          refine .inl ⟨fun c' hc' hwriting' => ?_, hsame⟩
          cases Option.some.inj hc'
          cases hwriting.symm.trans hwriting'
      | true =>
          cases houtbound : c.outbound with
          | nil =>
              have hsame : s.write connection = s := by
                simp only [write, hc, hwriting, houtbound, if_true]
              exact .inl ⟨fun c' hc' _ => Option.some.inj hc' ▸ houtbound, hsame⟩
          | cons m rest =>
              refine .inr ⟨c, m, rest, rfl, hwriting, houtbound, ?_⟩
              by_cases hfits : m.encode.length ≤ c.limit
              · have hencoded : Wire.encodeTo c.limit m [] = .ok ([] ++ m.encode) := by
                  rw [Wire.encodeTo, if_pos hfits]
                exact .inl ⟨hfits, by simp only [write, hc, hwriting, houtbound, hencoded, if_true]⟩
              · have hencoded : Wire.encodeTo c.limit m [] =
                    .error (.unwritable m.encode.length c.limit) := by
                  rw [Wire.encodeTo, if_neg hfits]
                exact .inr ⟨hfits, by simp only [write, hc, hwriting, houtbound, hencoded, if_true]⟩

/-- What comes of a look whether the connection has closed. -/
theorem notice_cases (s : Service) (connection : Nat) :
    s.notice connection = s ∨
    ∃ c, s.connection? connection = some c ∧ c.closed = true ∧ c.reading = true ∧
      s.notice connection = s.pass (.disconnect connection) := by
  unfold notice
  cases hc : s.connection? connection with
  | none => exact .inl rfl
  | some c =>
      simp only
      split
      · rename_i h
        obtain ⟨hclosed, hboth⟩ := Bool.and_eq_true_iff.mp h
        exact .inr ⟨c, rfl, hclosed, hboth, rfl⟩
      · exact .inl rfl

theorem quit_cases (s : Service) (connection : Nat) :
    s.quit connection = s ∨
    ∃ c, s.connection? connection = some c ∧ c.closed = true ∧ c.writing = true ∧
      s.quit connection = s.change connection Connection.quit := by
  unfold quit
  cases hc : s.connection? connection with
  | none => exact .inl rfl
  | some c =>
      simp only
      split
      · rename_i h
        obtain ⟨hclosed, hboth⟩ := Bool.and_eq_true_iff.mp h
        exact .inr ⟨c, rfl, hclosed, hboth, rfl⟩
      · exact .inl rfl

/-- What comes of a call's turn. -/
theorem turn_cases (s : Service) (n : Nat) (stage : Server.Stage) (t : Call → Turn) :
    (∀ w, s.history.calls.get? n = some w → w.stage ≠ stage) ∧ s.turn n stage t = s ∨
    ∃ w, s.history.calls.get? n = some w ∧ w.stage = stage ∧
      s.turn n stage t = s.pass (.turn n (t w.call)) := by
  unfold turn
  cases hw : s.history.calls.get? n with
  | none => exact .inl ⟨fun w hw => (by cases hw), rfl⟩
  | some w =>
      by_cases hstage : w.stage = stage
      · exact .inr ⟨w, rfl, hstage, if_pos hstage⟩
      · exact .inl ⟨fun w' hw' => Option.some.inj hw' ▸ hstage, if_neg hstage⟩

end

/-! ## How many connections there are -/

theorem length_lines_change (s : Service) (connection : Nat) (f : Connection → Connection) :
    (s.change connection f).history.lines.length = s.history.lines.length := List.length_modify ..

theorem length_lines_pass (s : Service) (op : Server.Op) (hop : ∀ peer limit, op ≠ .connect peer limit) :
    (s.pass op).history.lines.length = s.history.lines.length :=
  s.history.length_lines_step hop

theorem length_lines_take (s : Service) (connection : Nat) :
    (s.take connection).history.lines.length = s.history.lines.length := by
  have hdisconnect : ∀ peer limit, Server.Op.disconnect connection ≠ .connect peer limit :=
    fun _ _ => Server.Op.noConfusion
  rcases s.take_cases connection with ⟨-, heq⟩ | ⟨c, -, -, ⟨m, rest, -, heq⟩ | ⟨rest, -, -, heq⟩ | ⟨-, heq⟩⟩
  · rw [heq]
  · rw [heq, ← s.length_lines_change connection fun c => c.leave rest]
    exact (s.change connection fun c => c.leave rest).history.length_lines_step
      fun _ _ => Server.Op.noConfusion
  · rw [heq, length_lines_change]
  · rw [heq, s.length_lines_pass _ hdisconnect]

/-- A service makes no connections of itself. -/
theorem length_lines_move (s : Service) (m : Move) :
    (s.move m).history.lines.length = s.history.lines.length := by
  have hturn : ∀ n stage t, (s.turn n stage t).history.lines.length = s.history.lines.length := by
    intro n stage t
    rcases s.turn_cases n stage t with ⟨-, heq⟩ | ⟨w, -, -, heq⟩ <;> rw [heq]
    exact s.length_lines_pass _ fun _ _ => Server.Op.noConfusion
  cases m with
  | read connection size => exact s.length_lines_change connection _
  | take connection => exact s.length_lines_take connection
  | notice connection =>
      show (s.notice connection).history.lines.length = _
      rcases s.notice_cases connection with heq | ⟨c, -, -, -, heq⟩ <;> rw [heq]
      exact s.length_lines_pass _ fun _ _ => Server.Op.noConfusion
  | write connection =>
      show (s.write connection).history.lines.length = _
      rcases s.write_cases connection with ⟨-, heq⟩ | ⟨c, m, rest, -, -, -, ⟨-, heq⟩ | ⟨-, heq⟩⟩ <;> rw [heq]
      · exact s.length_lines_pass _ fun _ _ => Server.Op.noConfusion
      · exact s.length_lines_change connection _
  | quit connection =>
      show (s.quit connection).history.lines.length = _
      rcases s.quit_cases connection with heq | ⟨c, -, -, -, heq⟩ <;> rw [heq]
      exact s.length_lines_change connection _
  | finish n => exact hturn n .working fun call => .finish call.plan.outcome
  | complete task =>
      show (s.complete task).history.lines.length = _
      unfold Service.complete
      cases s.tasks[task]? with
      | none => rfl
      | some left => exact s.length_lines_pass (.turn left.1 (.report left.2)) fun _ _ => Server.Op.noConfusion
  | answer n => exact hturn n .ended fun _ => .answer
  | release n => exact hturn n .answered fun _ => .release

/-- As many connections are there as were made. -/
theorem length_lines_step (s : Service) {op : Op} (hop : ∀ peer limit, op ≠ .deed (.connect peer limit)) :
    (s.step op).history.lines.length = s.history.lines.length := by
  cases op with
  | deed deed =>
      cases deed with
      | connect peer limit => exact absurd rfl (hop peer limit)
      | send connection bytes => exact s.length_lines_change connection _
      | hangUp connection => exact s.length_lines_change connection _
      | cut connection => exact s.length_lines_change connection _
  | move m => exact s.length_lines_move m

/-! ## When no step is left -/

/-- What leaves a connection as it is leaves the service as it is. -/
theorem change_eq_self {s : Service} {connection : Nat} {f : Connection → Connection}
    (h : ∀ c, s.connection? connection = some c → f c = c) : s.change connection f = s := by
  have hlines : (s.history.lines.modify connection fun l => { l with connection := f l.connection }) =
      s.history.lines := by
    refine List.ext_getElem? fun other => ?_
    by_cases hother : connection = other
    · subst hother
      rw [List.getElem?_modify_eq]
      cases hl : s.history.lines[connection]? with
      | none => rfl
      | some l =>
          have hc : s.connection? connection = some l.connection := by
            rw [connection?, hl]
            rfl
          rw [Option.map_eq_map, Option.map_some, h l.connection hc]
    · exact List.getElem?_modify_ne _ _ hother
  rw [change, hlines]

/-- What is idle has read and written all, and has not closed while anyone still reads or writes. -/
theorem of_isIdle {c : Connection} (h : c.isIdle = true) :
    (c.reading = true → c.closed = false ∧ c.isDone = false ∧ c.intake.arrived = [] ∧
        Wire.takeFirst c.limit c.isDone c.intake.buffer = (.ok none, c.intake.buffer)) ∧
      (c.writing = true → c.closed = false ∧ c.outbound = []) := by
  unfold Connection.isIdle at h
  simp only [Bool.and_eq_true, Bool.or_eq_true, Bool.not_eq_true', List.isEmpty_iff] at h
  obtain ⟨hread, hwritten⟩ := h
  refine ⟨fun hreading => ?_, fun hwriting => ?_⟩
  · obtain ⟨⟨⟨hclosed, hdone⟩, harrived⟩, htaken⟩ := hread.resolve_left (by simp [hreading])
    refine ⟨hclosed, hdone, harrived, ?_⟩
    split at htaken
    · rename_i rest heq
      rw [heq, of_decide_eq_true htaken]
    · cases htaken
  · exact hwritten.resolve_left (by simp [hwriting])

section

variable {s : Service} {connection : Nat}
  (hidle : ∀ c, s.connection? connection = some c → c.isIdle = true)

include hidle

theorem readSome_of_isIdle (size : Nat) :
    (s.change connection fun c => c.readSome size) = s := by
  refine change_eq_self fun c hc => ?_
  rcases readSome_cases c size with ⟨-, heq⟩ | ⟨hreading, harrived, -⟩
  · exact heq
  · exact absurd ((of_isIdle (hidle c hc)).1 hreading).2.2.1 harrived

theorem take_of_isIdle : s.take connection = s := by
  rcases s.take_cases connection with ⟨-, heq⟩ | ⟨c, hc, hreading, hcase⟩
  · exact heq
  · obtain ⟨-, hdone, -, htaken⟩ := (of_isIdle (hidle c hc)).1 hreading
    rcases hcase with ⟨m, rest, hother, -⟩ | ⟨rest, -, hnone, heq⟩ | ⟨hover, -⟩
    · cases hother.symm.trans htaken
    · obtain rfl : rest = c.intake.buffer := congrArg Prod.snd (hnone.symm.trans htaken)
      rw [heq]
      refine change_eq_self fun c' hc' => ?_
      obtain rfl := Option.some.inj (hc.symm.trans hc')
      rfl
    · rcases hover with hover | ⟨fault, rest, hother⟩
      · cases hover.symm.trans hdone
      · cases hother.symm.trans htaken

theorem notice_of_isIdle : s.notice connection = s := by
  rcases s.notice_cases connection with heq | ⟨c, hc, hclosed, hreading, -⟩
  · exact heq
  · cases hclosed.symm.trans ((of_isIdle (hidle c hc)).1 hreading).1

theorem write_of_isIdle : s.write connection = s := by
  rcases s.write_cases connection with ⟨-, heq⟩ | ⟨c, m, rest, hc, hwriting, houtbound, -⟩
  · exact heq
  · cases houtbound.symm.trans ((of_isIdle (hidle c hc)).2 hwriting).2

theorem quit_of_isIdle : s.quit connection = s := by
  rcases s.quit_cases connection with heq | ⟨c, hc, hclosed, hwriting, -⟩
  · exact heq
  · cases hclosed.symm.trans ((of_isIdle (hidle c hc)).2 hwriting).1

end

/-- A service of which no part has a step left has none. -/
theorem isQuiet_of_isIdle {s : Service} (h : s.isIdle = true) : s.IsQuiet := by
  obtain ⟨hrest, hcalls⟩ := Bool.and_eq_true_iff.mp h
  obtain ⟨htasks, hlines⟩ := Bool.and_eq_true_iff.mp hrest
  have hidle : ∀ connection c, s.connection? connection = some c → c.isIdle = true := by
    intro connection c hc
    obtain ⟨l, hl, rfl⟩ := Option.map_eq_some_iff.mp hc
    exact List.all_eq_true.mp hlines l (List.mem_of_getElem? hl)
  have hturn : ∀ n stage t, stage ≠ .released → s.turn n stage t = s := by
    intro n stage t hstage
    rcases s.turn_cases n stage t with ⟨-, heq⟩ | ⟨w, hw, rfl, -⟩
    · exact heq
    · have hvalue : w ∈ s.history.calls.values :=
        List.mem_map_of_mem (f := Prod.snd) (Table.mem_rows_of_get? hw)
      exact absurd (of_decide_eq_true (List.all_eq_true.mp hcalls w hvalue)) hstage
  intro move
  cases move with
  | read connection size => exact readSome_of_isIdle (hidle connection) size
  | take connection => exact take_of_isIdle (hidle connection)
  | notice connection => exact notice_of_isIdle (hidle connection)
  | write connection => exact write_of_isIdle (hidle connection)
  | quit connection => exact quit_of_isIdle (hidle connection)
  | finish n => exact hturn n .working (fun call => .finish call.plan.outcome) Server.Stage.noConfusion
  | complete task =>
      show s.complete task = s
      rw [Service.complete, List.isEmpty_iff.mp htasks]
      rfl
  | answer n => exact hturn n .ended (fun _ => .answer) Server.Stage.noConfusion
  | release n => exact hturn n .answered (fun _ => .release) Server.Stage.noConfusion

end Service

end MediaControl
