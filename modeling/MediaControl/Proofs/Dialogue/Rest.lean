import MediaControl.Proofs.Dialogue.BothSides
import Mathlib.Algebra.Order.BigOperators.Group.Finset
import Mathlib.Data.Prod.Lex

/-!
# A dialogue comes to rest

What is under way in a dialogue comes to its end without another request.  It goes through stages: a
request is queued, its bytes arrive at the server and are read, a handler works on it and its tasks report,
messages are queued, and their bytes arrive at the session and are read.  A step that is left takes
something out of one stage, and adds to later ones only.  So what is left to be done becomes less in the
order of the stages.

Main statements: `Joined.move_eq_self` (what has no such step left is at rest), `Sound.comes_to_rest`, and
`Joined.received_of_isQuiet` (what a request has been told then).
-/

set_option autoImplicit false

namespace MediaControl

open MediaControl.Wire

/-! ## What is left on a connection -/

namespace Connection

/-- How much there is to be read and to be taken. -/
def input (c : Connection) : Nat := 2 * c.intake.arrived.length + c.intake.buffer.length

theorem input_readSome_lt {c : Connection} (hreading : c.reading = true) (h : c.intake.arrived ≠ []) :
    (c.readSome 1).input < c.input := by
  rcases Service.readSome_cases c 1 with ⟨hnone, -⟩ | ⟨-, -, heq⟩
  · exact absurd (hnone hreading) h
  · rw [heq]
    have hless := Intake.length_arrived_read_lt
      (i := { c.intake with size := c.intake.filled + 1 }) (by simp [Intake.room]) h
    have hmoved := Intake.length_buffer_read { c.intake with size := c.intake.filled + 1 }
    simp only [input] at hless hmoved ⊢
    omega

theorem input_leave_lt {c : Connection} {rest : Bytes} (h : rest.length < c.intake.buffer.length) :
    (c.leave rest).input < c.input := Nat.add_lt_add_left h _

/-- What is read and makes no message stays, but for line ends at its front. -/
theorem leave_eq_self_or_input_lt {c : Connection} {limit : Nat} {rest : Bytes}
    (h : decode limit c.intake.buffer = (.ok none, rest)) :
    c.leave rest = c ∨ (c.leave rest).input < c.input := by
  have hsuffix : rest <:+ c.intake.buffer := by
    rw [eq_of_decode_waiting h]
    exact List.dropWhile_suffix _
  rcases Nat.lt_or_ge rest.length c.intake.buffer.length with hlt | hge
  · exact .inr (input_leave_lt hlt)
  · refine .inl ?_
    rw [hsuffix.eq_of_length_le hge]
    rfl

end Connection

/-! ## What is left at the server -/

namespace Server

/-- How many turns a call has left, what it reports apart. -/
def Stage.turns : Stage → Nat
  | working => 3
  | ended => 2
  | answered => 1
  | released => 0

/-- How many turns all calls have left. -/
def History.turns (h : History) : Nat :=
  ∑ n ∈ Finset.range h.asked, ((h.calls.get? n).map fun w => w.stage.turns).getD 0

theorem History.asked_turn (h : History) (n : Nat) (t : Turn) :
    (h.step (.turn n t)).asked = h.asked := by
  rw [step]
  cases h.calls.get? n with
  | none => rfl
  | some w => exact (posted_postAll _ _ _ _).asked

theorem History.turns_report (h : History) (n : Nat) (e : Event) :
    (h.step (.turn n (.report e))).turns = h.turns := by
  rw [turns, turns, h.asked_turn]
  refine Finset.sum_congr rfl ?_
  intro other _
  rw [get?_calls_turn]
  split
  · rename_i hother
    rw [hother, Option.map_map]
    rfl
  · rfl

/-- A turn of a call that gets further leaves fewer. -/
theorem History.turns_turn_lt {h : History} {n : Nat} {t : Turn} {w : Work} (hw : h.calls.get? n = some w)
    (hn : n < h.asked) (ht : (w.turn t).2.stage.turns < w.stage.turns) :
    (h.step (.turn n t)).turns < h.turns := by
  have hself : (((h.step (.turn n t)).calls.get? n).map fun w => w.stage.turns).getD 0 <
      ((h.calls.get? n).map fun w => w.stage.turns).getD 0 := by
    rw [get?_calls_turn, if_pos rfl, hw]
    exact ht
  rw [turns, turns, h.asked_turn]
  refine Finset.sum_lt_sum ?_ ⟨n, Finset.mem_range.mpr hn, hself⟩
  intro other _
  by_cases hother : other = n
  · rw [hother]
    exact Nat.le_of_lt hself
  · rw [get?_calls_turn, if_neg hother]

end Server

namespace Service

/-- What is left to be done: what there is to be read and to be taken on the connection with the number
zero, what handlers and their tasks have yet to do, and what is to be written on it. -/
def left (s : Service) : ℕ ×ₗ ℕ ×ₗ ℕ :=
  let c? := s.connection? 0
  toLex ((c?.map Connection.input).getD 0, toLex (s.tasks.length + s.history.turns,
    (c?.map fun c => c.outbound.length).getD 0))

theorem left_eq {s : Service} {l : Server.Line} (h : s.history.lines[0]? = some l) :
    s.left = toLex (l.connection.input, toLex (s.tasks.length + s.history.turns,
      l.connection.outbound.length)) := by
  rw [left, connection?, h]
  rfl

section

variable {s : Service} (s' : Service) {l l' : Server.Line} (hl : s.history.lines[0]? = some l)
  (hl' : s'.history.lines[0]? = some l')

include hl hl'

theorem left_lt_of_input (h : l'.connection.input < l.connection.input) : s'.left < s.left := by
  rw [left_eq hl, left_eq hl', Prod.Lex.toLex_lt_toLex]
  exact .inl h

theorem left_lt_of_turns (hinput : l'.connection.input = l.connection.input)
    (h : s'.tasks.length + s'.history.turns < s.tasks.length + s.history.turns) : s'.left < s.left := by
  rw [left_eq hl, left_eq hl', Prod.Lex.toLex_lt_toLex]
  refine .inr ⟨hinput, ?_⟩
  rw [Prod.Lex.toLex_lt_toLex]
  exact .inl h

theorem left_lt_of_outbound (hinput : l'.connection.input = l.connection.input)
    (hturns : s'.tasks.length + s'.history.turns = s.tasks.length + s.history.turns)
    (h : l'.connection.outbound.length < l.connection.outbound.length) : s'.left < s.left := by
  rw [left_eq hl, left_eq hl', Prod.Lex.toLex_lt_toLex]
  refine .inr ⟨hinput, ?_⟩
  rw [Prod.Lex.toLex_lt_toLex]
  exact .inr ⟨hturns, h⟩

end

end Service

/-! ## The server has come to rest -/

namespace Dialogue.ServerSide

open Server (Docket Line History)

variable {g : Docket} {limit : Nat} {asked : List Asked} {s : Service} {k : Docket} {l : Line}

theorem eq_line (hs : ServerSide g limit asked s k l) {connection : Nat} {c : Connection}
    (hc : s.connection? connection = some c) : connection = 0 ∧ c = l.connection := by
  rw [Service.connection?, hs.lines] at hc
  cases connection with
  | zero => exact ⟨rfl, (Option.some.inj hc).symm⟩
  | succ connection => cases hc

theorem change_eq_self (hs : ServerSide g limit asked s k l) {connection : Nat}
    {f : Connection → Connection} (h : f l.connection = l.connection) : s.change connection f = s := by
  refine Service.change_eq_self ?_
  intro c hc
  rw [(hs.eq_line hc).2, h]

section

variable (hs : ServerSide g limit asked s k l) (hstill : ∀ m, ¬ (s.move m).left < s.left)

include hs hstill

theorem readSome_eq_self (connection size : Nat) : s.move (.read connection size) = s := by
  refine hs.change_eq_self (f := fun c => c.readSome size) ?_
  have hreading := (hs.apart.streams.flowing hs.isOpen).reading
  rcases Service.readSome_cases l.connection size with ⟨-, heq⟩ | ⟨-, harrived, -⟩
  · exact heq
  · have hread := hs.apart.streams.line_change fun c => c.readSome 1
    exact absurd (Service.left_lt_of_input _ hs.apart.streams.line hread
      (Connection.input_readSome_lt hreading harrived)) (hstill (.read 0 1))

/-- Every call has had its turns. -/
theorem turn_eq_self {m : Service.Move} (n : Nat) (stage : Server.Stage) (t : Call → Server.Turn)
    (hmove : s.move m = s.turn n stage t)
    (ht : ∀ w : Server.Work, w.stage = stage → (w.turn (t w.call)).2.stage.turns < w.stage.turns) :
    s.move m = s := by
  rcases s.turn_cases n stage t with ⟨-, heq⟩ | ⟨w, hw, hstage, heq⟩
  · exact hmove.trans heq
  · have hmirrors := hs.apart.upkeep.mirrors
    have hn : n < s.history.asked := by
      rw [hmirrors.calls] at hw
      obtain ⟨c, hc, -⟩ := Option.bind_eq_some_iff.mp hw
      rw [hmirrors.asked]
      exact (List.getElem?_eq_some_iff.mp hc).1
    obtain ⟨outbound, hline⟩ := (History.Leaves.turn s.history n (t w.call) 0).line l hs.apart.streams.line
    have hless := Service.left_lt_of_turns (s.pass (.turn n (t w.call))) hs.apart.streams.line
      hline rfl (Nat.add_lt_add_left (History.turns_turn_lt hw hn (ht w hstage)) _)
    rw [← heq, ← hmove] at hless
    exact absurd hless (hstill m)

/-- Every task has reported. -/
theorem complete_eq_self (task : Nat) : s.move (.complete task) = s := by
  show s.complete task = s
  have hsame := hstill (.complete task)
  rw [Service.move, Service.complete] at hsame
  rw [Service.complete]
  cases htask : s.tasks[task]? with
  | none => rfl
  | some left =>
      obtain ⟨n, e⟩ := left
      rw [htask] at hsame
      obtain ⟨outbound, hline⟩ :=
        (History.Leaves.turn s.history n (.report e) 0).line l hs.apart.streams.line
      refine absurd (Service.left_lt_of_turns
        { s.pass (.turn n (.report e)) with tasks := s.tasks.eraseIdx task }
        hs.apart.streams.line hline rfl ?_) hsame
      have hlt := (List.getElem?_eq_some_iff.mp htask).1
      show (s.tasks.eraseIdx task).length + (s.history.step (.turn n (.report e))).turns < _
      rw [s.history.turns_report, List.length_eraseIdx_of_lt hlt]
      omega

section

variable (hg : g.IsFresh) (hready : Ready g limit asked)

include hg hready

omit hstill in
theorem isOpen_move {m : Service.Move} {l' : Line} (hl' : (s.move m).history.lines[0]? = some l') :
    l'.connection.closed = false := by
  obtain ⟨k', l'', hserver, -⟩ := hs.step hg hready (.move m) rfl (fun _ _ => by simp)
    (List.append_nil (bytesOf asked))
  have hline : (s.move m).history.lines[0]? = some l'' := hserver.apart.streams.line
  rw [← Option.some.inj (hline.symm.trans hl')]
  exact hserver.isOpen

/-- Every message has been taken. -/
theorem take_eq_self (connection : Nat) : s.move (.take connection) = s := by
  show s.take connection = s
  have hline := hs.apart.streams.line
  have hless := hstill (.take connection)
  have hopen := @isOpen_move _ _ _ _ _ _ hs hg hready (.take connection)
  rw [Service.move] at hless hopen
  rcases s.take_cases connection with ⟨-, heq⟩ | ⟨c, hc, hreading, hcase⟩
  · exact heq
  · obtain ⟨rfl, rfl⟩ := hs.eq_line hc
    rcases hcase with ⟨m, rest, htaken, heq⟩ | ⟨rest, hdone, htaken, heq⟩ | ⟨-, heq⟩ <;>
      rw [heq] at hless hopen
    · obtain ⟨outbound, hline'⟩ := (History.Leaves.receive
        (s.change 0 fun c => c.leave rest).history 0 m 0).line _
          (hs.apart.streams.line_change fun c => c.leave rest)
      have hlt : (l.connection.leave rest).input < l.connection.input :=
        Connection.input_leave_lt (length_takeFirst_lt htaken)
      exact absurd (Service.left_lt_of_input _ hline hline' hlt) hless
    · rw [hdone] at htaken
      rcases Connection.leave_eq_self_or_input_lt htaken with hsame | hlt
      · rw [heq]
        exact hs.change_eq_self hsame
      · exact absurd (Service.left_lt_of_input _ hline
          (hs.apart.streams.line_change fun c => c.leave rest) hlt) hless
    · -- the connection would have closed
      have hlive := Service.isLive_of_connection? hc hreading
      cases hopen (hs.apart.streams.line_disconnect hlive)

/-- Everything has been written. -/
theorem write_eq_self (connection : Nat) : s.move (.write connection) = s := by
  show s.write connection = s
  have hline := hs.apart.streams.line
  have hless := hstill (.write connection)
  have hopen := @isOpen_move _ _ _ _ _ _ hs hg hready (.write connection)
  rw [Service.move] at hless hopen
  rcases s.write_cases connection with ⟨-, heq⟩ | ⟨c, m, rest, hc, -, houtbound, hcase⟩
  · exact heq
  · obtain ⟨rfl, rfl⟩ := hs.eq_line hc
    rcases hcase with ⟨-, heq⟩ | ⟨-, heq⟩ <;> rw [heq] at hless hopen
    · have hdrained := hs.apart.streams.line_drain
      rw [Line.drain, houtbound] at hdrained
      refine absurd (Service.left_lt_of_outbound _ hline hdrained rfl rfl ?_) hless
      rw [houtbound]
      exact Nat.lt_succ_self _
    · cases hopen (hs.apart.streams.line_change Connection.giveUp)

/-- Where no step leaves less to be done, none is left. -/
theorem move_eq_self (m : Service.Move) : s.move m = s := by
  have hclosed : ∀ {connection : Nat} {c : Connection}, s.connection? connection = some c →
      c.closed = false := fun hc => (hs.eq_line hc).2 ▸ hs.isOpen
  cases m with
  | read connection size => exact hs.readSome_eq_self hstill connection size
  | take connection => exact hs.take_eq_self hstill hg hready connection
  | notice connection =>
      rcases s.notice_cases connection with heq | ⟨c, hc, hc', -, -⟩
      · exact heq
      · cases (hclosed hc).symm.trans hc'
  | write connection => exact hs.write_eq_self hstill hg hready connection
  | quit connection =>
      rcases s.quit_cases connection with heq | ⟨c, hc, hc', -, -⟩
      · exact heq
      · cases (hclosed hc).symm.trans hc'
  | finish n =>
      refine hs.turn_eq_self hstill n .working (fun call => .finish call.plan.outcome) rfl ?_
      intro w hw
      simp [Server.Work.turn, hw, Server.Stage.turns]
  | complete task => exact hs.complete_eq_self hstill task
  | answer n =>
      refine hs.turn_eq_self hstill n .ended (fun _ => .answer) rfl ?_
      intro w hw
      simp [Server.Work.turn, hw, Server.Stage.turns]
  | release n =>
      refine hs.turn_eq_self hstill n .answered (fun _ => .release) rfl ?_
      intro w hw
      simp [Server.Work.turn, hw, Server.Stage.turns]

end

end

end Dialogue.ServerSide

/-! ## The dialogue has come to rest -/

namespace Dialogue

open Server (Docket Line)

/-- What is left to be done: what the session is to write, what is left at the server, and what there is to
be read and to be taken at the session. -/
def left (d : Dialogue) : ℕ ×ₗ (ℕ ×ₗ ℕ ×ₗ ℕ) ×ₗ ℕ :=
  toLex (d.line.outbound.length, toLex (d.service.left, d.line.input))

theorem left_lt_of_outbound {d d' : Dialogue} (h : d'.line.outbound.length < d.line.outbound.length) :
    d'.left < d.left := by
  rw [left, left, Prod.Lex.toLex_lt_toLex]
  exact .inl h

theorem left_lt_of_service {d d' : Dialogue} (hup : d'.line.outbound = d.line.outbound)
    (h : d'.service.left < d.service.left) : d'.left < d.left := by
  rw [left, left, hup, Prod.Lex.toLex_lt_toLex]
  refine .inr ⟨rfl, ?_⟩
  rw [Prod.Lex.toLex_lt_toLex]
  exact .inl h

theorem left_lt_of_input {d d' : Dialogue} (hup : d'.line.outbound = d.line.outbound)
    (hservice : d'.service = d.service) (h : d'.line.input < d.line.input) : d'.left < d.left := by
  rw [left, left, hup, hservice, Prod.Lex.toLex_lt_toLex]
  refine .inr ⟨rfl, ?_⟩
  rw [Prod.Lex.toLex_lt_toLex]
  exact .inr ⟨rfl, h⟩

theorem transport_line (d : Dialogue) : d.transport d.line = d := by
  show { d with client := { d.client with session := { d.client.session with
    connection := { d.line with closed := d.line.closed || d.line.closed } } } } = d
  rw [Bool.or_self]
  rfl

/-- A step of the server that changes nothing there changes nothing. -/
theorem serve_eq_self {d : Dialogue} {op : Service.Op} (h : d.service.step op = d.service)
    (hwriting : isWriting d.service = true) : d.serve op = d := by
  have hoffer : d.line.offer [] = d.line := by
    rcases Service.offer_cases d.line [] with heq | ⟨heq, -⟩
    · rw [heq, Connection.receive, Intake.receive, List.append_nil]
    · exact heq
  have hcarry : carry d.line d.service d.service = d.line := by
    rw [carry, List.drop_length, List.flatMap_nil, hoffer, hwriting]
    rfl
  rw [serve, h, hcarry, transport_line]

section

variable {g : Docket} {clientLimit serverLimit : Nat} {d : Dialogue} {k : Docket} {l : Line}
  {sent come : Nat}

namespace Joined

variable (hd : Joined g clientLimit serverLimit d k l sent come)

include hd

theorem left_read_lt (h : d.line.intake.arrived ≠ []) : (d.move (.read 1)).left < d.left := by
  have hopen : d.line.closed = false := hd.client.connection
  refine left_lt_of_input (hd.read 1).2 rfl ?_
  rw [move, line_transport hopen]
  exact Connection.input_readSome_lt hd.carries.reading h

section

variable (hg : g.IsFresh) (hclient : clientLimit ≤ Natural.max64)
  (htravels : ∀ a ∈ d.asked, a.Travels clientLimit serverLimit)

include hg htravels

theorem left_write_lt (hup : d.line.outbound = (d.asked.drop sent).map Asked.message)
    (h : sent < d.asked.length) : (d.move .write).left < d.left := by
  rcases hd.write_cases hup hg htravels with ⟨hall, -⟩ | ⟨-, k', l', -, hup'⟩
  · exact absurd hall (Nat.ne_of_lt h)
  · refine left_lt_of_outbound ?_
    rw [move, hup, hup']
    simp only [List.length_map, List.length_drop]
    omega

/-- What the server does leaves less to be done, if it leaves less there. -/
theorem left_serve_lt {m : Service.Move} (h : (d.service.move m).left < d.service.left) :
    (d.move (.serve m)).left < d.left := by
  obtain ⟨k', l', -, hsame⟩ := hd.serve_move hg htravels m
  exact left_lt_of_service hsame h

include hclient

theorem look_eq_self_or_left_lt :
    (d.look = d ∧ ∃ rest, decode clientLimit d.line.intake.buffer = (.ok none, rest)) ∨
      d.look.left < d.left := by
  have hopen : d.line.closed = false := hd.client.connection
  rcases hd.look_cases hg hclient htravels with ⟨m, rest, -, hdecode, heq⟩ | ⟨rest, hdecode, heq⟩
  · have hline : d.look.line = d.line.leave rest := by
      rw [heq]
      exact (Session.connection_receive ..).trans (line_transport hopen _)
    refine .inr (left_lt_of_input ?_ ?_ ?_)
    · rw [hline]
      rfl
    · rw [heq]
      rfl
    · rw [hline]
      have htaken : takeFirst clientLimit false d.line.intake.buffer = (.ok (some m.plain), rest) :=
        hdecode
      exact Connection.input_leave_lt (length_takeFirst_lt htaken)
  · have hline : d.look.line = d.line.leave rest := by
      rw [heq]
      exact line_transport hopen _
    rcases Connection.leave_eq_self_or_input_lt hdecode with hsame | hlt
    · refine .inl ⟨?_, rest, hdecode⟩
      rw [heq, hsame, transport_line]
    · refine .inr (left_lt_of_input ?_ ?_ ?_)
      · rw [hline]
        rfl
      · rw [heq]
        rfl
      · rw [hline]
        exact hlt

section

variable (hup : d.line.outbound = (d.asked.drop sent).map Asked.message)
  (hstill : ∀ m, ¬ (d.move m).left < d.left)

include hup hstill

omit hclient in
theorem sent_eq : sent = d.asked.length := by
  rcases Nat.lt_or_ge sent d.asked.length with hlt | hge
  · exact absurd (hd.left_write_lt hg htravels hup hlt) (hstill .write)
  · exact Nat.le_antisymm hd.sent_le hge

omit hg hclient htravels hup in
theorem arrived_eq : d.line.intake.arrived = [] := by
  by_contra harrived
  exact hstill (.read 1) (hd.left_read_lt harrived)

omit hup in
theorem come_eq : come = l.written.length := by
  rcases hd.look_eq_self_or_left_lt hg hclient htravels with ⟨-, rest, hdecode⟩ | hlt
  · obtain ⟨-, htaken⟩ := hd.carries.all_taken (hd.arrived_eq hstill) hdecode
    rw [hd.drain_written hg hclient htravels] at htaken
    have hlength := congrArg List.length htaken
    rw [List.length_map, List.length_map, List.length_take, Nat.min_eq_left hd.come_le] at hlength
    exact hlength
  · exact absurd hlt (hstill .look)

/-- Where no step leaves less to be done, none is left. -/
theorem move_eq_self (m : Move) : d.move m = d := by
  cases m with
  | write =>
      rcases hd.write_cases hup hg htravels with ⟨-, heq⟩ | ⟨hlt, -⟩
      · exact heq
      · exact absurd (hd.left_write_lt hg htravels hup hlt) (hstill .write)
  | quit => exact hd.quit_eq
  | read size =>
      rcases Service.readSome_cases d.line size with ⟨-, heq⟩ | ⟨-, harrived, -⟩
      · rw [move, heq, transport_line]
      · exact absurd (hd.arrived_eq hstill) harrived
  | look =>
      rcases hd.look_eq_self_or_left_lt hg hclient htravels with ⟨heq, -⟩ | hlt
      · exact heq
      · exact absurd hlt (hstill .look)
  | notice => exact hd.notice_eq
  | serve m =>
      have hready := hd.ready_sent htravels
      have hserver : ∀ m, ¬ (d.service.move m).left < d.service.left :=
        fun m hlt => hstill (.serve m) (hd.left_serve_lt hg htravels hlt)
      refine serve_eq_self (hd.server.move_eq_self hserver hg hready m) ?_
      rw [isWriting, hd.server.apart.streams.connection?_eq]
      exact (hd.server.apart.streams.flowing hd.server.isOpen).writing

end

/-- When no step is left, a request has been told its whole script. -/
theorem received_of_isQuiet (hup : d.line.outbound = (d.asked.drop sent).map Asked.message)
    (hquiet : d.IsQuiet) {a : Asked} (ha : a ∈ d.asked) :
    ∃ c, Matches c a ∧ d.client.received a.pending.slot = c.script.map fun m => .ok m.plain := by
  have hstill : ∀ m, ¬ (d.move m).left < d.left := by
    intro m
    rw [hquiet m]
    exact lt_irrefl _
  have hserver : d.service.IsQuiet := fun m => congrArg Dialogue.service (hquiet (.serve m))
  have hready := hd.ready htravels
  have hside := hd.server
  rw [hd.sent_eq hg htravels hup hstill, List.take_length] at hside
  obtain ⟨n, hn⟩ := List.getElem?_of_mem ha
  obtain ⟨c, hc, hwhole⟩ := hside.at_rest hready hserver hn
  obtain ⟨b, hb, hmatches⟩ := hside.exists_asked hg hready hc
  obtain rfl := Option.some.inj (hn.symm.trans hb)
  refine ⟨c, hmatches, ?_⟩
  rw [hd.client.received a ha, hd.come_eq hg hclient htravels hstill, List.take_length,
    hside.written_of_isQuiet hserver, hside.filter_queued hg hready hn, hc, Option.map_some,
    Option.getD_some, hwhole]

end

end Joined

/-- A dialogue comes to rest without another request. -/
theorem Sound.comes_to_rest (hg : g.IsFresh) (hclient : clientLimit ≤ Natural.max64)
    (hd : Sound g clientLimit serverLimit d)
    (htravels : ∀ a ∈ d.asked, a.Travels clientLimit serverLimit) :
    ∃ moves : List Move, (d.run (moves.map .move)).IsQuiet ∧
      (d.run (moves.map .move)).asked = d.asked := by
  -- on what is left to be done
  induction hleft : d.left using WellFoundedLT.induction generalizing d with
  | ind left ih =>
      by_cases hstill : ∀ m, ¬ (d.move m).left < d.left
      · obtain ⟨k, l, sent, come, hd, hup⟩ := hd
        exact ⟨[], hd.move_eq_self hg hclient htravels hup hstill, rfl⟩
      · simp only [not_forall, not_not] at hstill
        obtain ⟨m, hlt⟩ := hstill
        have hasked := d.asked_move m
        obtain ⟨moves, hquiet, hsame⟩ := ih _ (hleft ▸ hlt) (Sound.move hg hclient hd htravels m)
          (hasked.symm ▸ htravels) rfl
        exact ⟨m :: moves, hquiet, hsame.trans hasked⟩

end

end Dialogue

end MediaControl
