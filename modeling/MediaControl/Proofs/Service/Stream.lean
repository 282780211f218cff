import MediaControl.Proofs.Service.Upkeep
import MediaControl.Proofs.Wire.Taking

/-!
# The stream of one connection

As long as a connection is open, the messages that were taken from it and those that are still in it
are the messages of the bytes that were sent on it, all that was to be queued on it has been queued,
and what was written on it kept to its limit.  What happens on other connections does not come into it.

Main statements: `Streams.step` (what happens to the connection, and what may close it) and
`Streams.at_rest` (nothing is left to be taken or written when no step is left).
-/

set_option autoImplicit false

namespace MediaControl

open MediaControl.Wire

/-- The request, if it is one. -/
def Message.request? : Message → Option Request
  | request r => some r
  | _ => none

/-! ## Servers -/

namespace Server

/-- A connection is left as it is, but for what is queued on it, and whatever is queued on it while it
is open is taken. -/
structure History.Leaves (h h' : History) (connection : Nat) : Prop where
  line : ∀ l, h.lines[connection]? = some l →
    ∃ outbound, h'.lines[connection]? =
      some { l with connection := { l.connection with outbound } }
  sent : ∀ l, h.lines[connection]? = some l → l.connection.closed = false →
    ∀ s ∈ h'.sent, s.connection = connection → s ∈ h.sent ∨ s.isQueued = true

namespace History.Leaves

variable {h h' h'' : History} {connection : Nat}

theorem of_eq (hline : h'.lines[connection]? = h.lines[connection]?) (hsent : h'.sent = h.sent) :
    Leaves h h' connection where
  line := fun l hl => ⟨l.connection.outbound, hline.trans hl⟩
  sent := fun _ _ _ _ hs _ => .inl (hsent ▸ hs)

theorem trans (hfirst : Leaves h h' connection) (hrest : Leaves h' h'' connection) :
    Leaves h h'' connection where
  line := by
    intro l hl
    obtain ⟨outbound, hl'⟩ := hfirst.line l hl
    obtain ⟨outbound', hl''⟩ := hrest.line _ hl'
    exact ⟨outbound', hl''⟩
  sent := by
    intro l hl hclosed s hs hconnection
    obtain ⟨outbound, hl'⟩ := hfirst.line l hl
    rcases hrest.sent _ hl' hclosed s hs hconnection with hs | hqueued
    · exact hfirst.sent l hl hclosed s hs hconnection
    · exact .inr hqueued

theorem post (h : History) (cause other : Nat) (m : Message) (connection : Nat) :
    Leaves h (h.post cause other m) connection := by
  rcases h.post_cases cause other m with ⟨l', l'', hl', hsend, hpost⟩ | hpost
  · rw [hpost]
    refine ⟨?_, ?_⟩
    · intro l hl
      by_cases hother : other = connection
      · subst hother
        obtain rfl := Option.some.inj (hl'.symm.trans hl)
        rw [Line.send?_eq] at hsend
        split at hsend
        · cases hsend
        · rw [List.getElem?_set_self (List.getElem?_eq_some_iff.mp hl).1, ← Option.some.inj hsend]
          exact ⟨_, rfl⟩
      · rw [List.getElem?_set_ne hother]
        exact ⟨l.connection.outbound, hl⟩
    · intro _ _ _ s hs _
      rcases List.mem_append.mp hs with hs | hs
      · exact .inl hs
      · rw [List.mem_singleton.mp hs]
        exact .inr rfl
  · -- an open connection would have taken the message
    have hsend : ((h.lines[other]?).bind fun l => l.send? m) = none := by
      cases hline : (h.lines[other]?).bind fun l => l.send? m with
      | none => rfl
      | some l' =>
          have hlength := congrArg (fun h : History => (h.sent.map Sending.isQueued).getLast?) hpost
          simp [History.post, hline] at hlength
    rw [hpost]
    refine ⟨fun l hl => ⟨l.connection.outbound, hl⟩, ?_⟩
    intro l hl hclosed s hs hconnection
    rcases List.mem_append.mp hs with hs | hs
    · exact .inl hs
    · rw [List.mem_singleton.mp hs] at hconnection
      have hother : other = connection := hconnection
      rw [hother, hl, Option.bind_some, Line.send?_eq, hclosed] at hsend
      cases hsend

theorem postAll (h : History) (cause other : Nat) (ms : List Message) (connection : Nat) :
    Leaves h (h.postAll cause other ms) connection := by
  induction ms generalizing h with
  | nil => exact of_eq rfl rfl
  | cons m ms ih => exact (post h cause other m connection).trans (ih _)

theorem take (h : History) (other : Nat) (m : Message) (connection : Nat) :
    Leaves h (h.take other m) connection := by
  unfold History.take
  simp only
  cases (h.server.receive other m).2 with
  | ignored => exact of_eq rfl rfl
  | rejected response =>
      have hsame : Leaves h { h with
          server := (h.server.receive other m).1, asked := h.asked + 1 } connection := of_eq rfl rfl
      exact hsame.trans (post _ h.asked other (.response response) connection)
  | accepted call => exact of_eq rfl rfl

theorem receive (h : History) (other : Nat) (m : Message) (connection : Nat) :
    Leaves h (h.step (.receive other m)) connection := by
  rw [History.step]
  split
  · exact take h other m connection
  · exact of_eq rfl rfl

theorem turn (h : History) (n : Nat) (t : Turn) (connection : Nat) :
    Leaves h (h.step (.turn n t)) connection := by
  rw [History.step]
  cases h.calls.get? n with
  | none => exact of_eq rfl rfl
  | some w =>
      have hsame : Leaves h { h with calls := h.calls.insert n (w.turn t).2 } connection :=
        of_eq rfl rfl
      exact hsame.trans (postAll _ n _ (w.turn t).1 connection)

theorem connect (h : History) (peer : String) (limit : Nat) (connection : Nat)
    (hlt : connection < h.lines.length) : Leaves h (h.step (.connect peer limit)) connection :=
  of_eq (List.getElem?_append_left hlt) rfl

theorem modify (h : History) {other connection : Nat} (hother : other ≠ connection) (server : Server)
    (f : Line → Line) : Leaves h { h with server, lines := h.lines.modify other f } connection :=
  of_eq (List.getElem?_modify_ne f h.lines hother) rfl

theorem disconnect (h : History) {other connection : Nat} (hother : other ≠ connection) :
    Leaves h (h.step (.disconnect other)) connection := by
  rw [History.step]
  split
  · exact modify h hother _ Line.stop
  · exact of_eq rfl rfl

end History.Leaves

end Server

namespace Service

open Server (Line History)

/-! ## What flows -/

/-- The connection is open at both ends of its stream.  The messages that were taken from it are the
first of those of the bytes that were sent on it, whatever is sent after them, and what has come in and
was not taken makes the others. -/
structure Carries (limit : Nat) (bytes : Bytes) (taken : List Message) (c : Connection) : Prop where
  reading : c.reading = true
  writing : c.writing = true
  ended : c.ended = false
  stream : ∀ more, drain limit false (bytes ++ more) =
    (drain limit false (c.intake.buffer ++ c.intake.arrived ++ more)).after taken

namespace Carries

variable {limit : Nat} {bytes : Bytes} {taken : List Message} {c : Connection}

theorem start (id : Nat) (peer : String) : Carries limit [] [] { id, peer, limit } :=
  ⟨rfl, rfl, rfl, fun _ => rfl⟩

theorem isDone (h : Carries limit bytes taken c) : c.isDone = false := by
  rw [Connection.isDone, h.ended, Bool.false_and]

/-- Bytes come in. -/
theorem offer (h : Carries limit bytes taken c) (hopen : c.closed = false) (more : Bytes) :
    Carries limit (bytes ++ more) taken (c.offer more) := by
  rcases offer_cases c more with hoffer | ⟨-, hended | hclosed⟩
  · rw [hoffer]
    refine ⟨h.reading, h.writing, h.ended, fun later => ?_⟩
    have hlater := h.stream (more ++ later)
    rw [← List.append_assoc, ← List.append_assoc] at hlater
    simpa only [Connection.receive, Intake.receive, List.append_assoc] using hlater
  · cases h.ended.symm.trans hended
  · cases hopen.symm.trans hclosed

theorem readSome (h : Carries limit bytes taken c) (size : Nat) :
    Carries limit bytes taken (c.readSome size) := by
  rcases readSome_cases c size with ⟨-, hread⟩ | ⟨-, -, hread⟩
  · rwa [hread]
  · rw [hread]
    refine ⟨h.reading, h.writing, h.ended, ?_⟩
    simpa only [Intake.buffer_append_arrived_read] using h.stream

theorem leave (h : Carries limit bytes taken c) {rest : Bytes}
    (hdecode : decode limit c.intake.buffer = (.ok none, rest)) :
    Carries limit bytes taken (c.leave rest) := by
  refine ⟨h.reading, h.writing, h.ended, fun more => ?_⟩
  rw [h.stream more, List.append_assoc]
  have hwaits := takeFirst_congr (decode_append_of_waiting hdecode (c.intake.arrived ++ more)) false
  rw [drain_congr hwaits, Connection.leave, Intake.leave, List.append_assoc]

theorem takeOut (h : Carries limit bytes taken c) {m : Message} {rest : Bytes}
    (hdecode : decode limit c.intake.buffer = (.ok (some m), rest)) :
    Carries limit bytes (taken ++ [m]) (c.leave rest) := by
  refine ⟨h.reading, h.writing, h.ended, fun more => ?_⟩
  rw [h.stream more, List.append_assoc]
  have hfirst : takeFirst limit false (c.intake.buffer ++ (c.intake.arrived ++ more)) =
      (.ok (some m), rest ++ (c.intake.arrived ++ more)) := decode_append_of_message hdecode _
  rw [drain_of_message hfirst, Drained.after_after, Connection.leave, Intake.leave, List.append_assoc]

theorem queue (h : Carries limit bytes taken c) (outbound : List Message) :
    Carries limit bytes taken { c with outbound } :=
  ⟨h.reading, h.writing, h.ended, h.stream⟩

/-- The messages that were taken are the first of those that were sent, whatever is sent after them. -/
theorem front (h : Carries limit bytes taken c) (more : Bytes) :
    taken <+: (drain limit false (bytes ++ more)).messages := by
  rw [h.stream more, Drained.messages_after]
  exact List.prefix_append ..

/-- When everything has been read, and what was read makes no message, the messages that were taken are
those of the bytes that were sent. -/
theorem all_taken (h : Carries limit bytes taken c) (hread : c.intake.arrived = [])
    {rest : Bytes} (hdecode : decode limit c.intake.buffer = (.ok none, rest)) :
    (drain limit false bytes).halt = .waiting ∧ taken = (drain limit false bytes).messages := by
  have hall := h.stream []
  rw [hread, List.append_nil, List.append_nil, List.append_nil, drain_of_waiting hdecode] at hall
  rw [hall, Drained.messages_after, List.append_nil]
  exact ⟨rfl, rfl⟩

/-- Where what was read is refused, so is what was sent, whatever is sent after it. -/
theorem fault (h : Carries limit bytes taken c) {fault : Fault} {rest : Bytes}
    (hdecode : decode limit c.intake.buffer = (.error fault, rest)) (more : Bytes) :
    ∃ other, (drain limit false (bytes ++ more)).halt = .fault other := by
  obtain ⟨other, rest', hrefused⟩ := decode_append_of_fault hdecode (c.intake.arrived ++ more)
  have htaken : takeFirst limit false (c.intake.buffer ++ (c.intake.arrived ++ more)) =
      (.error other, rest') := hrefused
  refine ⟨other, ?_⟩
  rw [h.stream more, List.append_assoc, drain_of_fault htaken]
  rfl

end Carries

/-- The connection carries its stream, and these are the requests among the messages that were taken. -/
def Flowing (limit : Nat) (bytes : Bytes) (requests : List Request) (c : Connection) : Prop :=
  ∃ taken, requests = taken.filterMap Message.request? ∧ Carries limit bytes taken c

namespace Flowing

variable {limit : Nat} {bytes : Bytes} {requests : List Request} {c : Connection}

theorem map (h : Flowing limit bytes requests c) {later : Bytes} {c' : Connection}
    (hcarries : ∀ taken, Carries limit bytes taken c → Carries limit later taken c') :
    Flowing limit later requests c' := by
  obtain ⟨taken, hrequests, hc⟩ := h
  exact ⟨taken, hrequests, hcarries taken hc⟩

theorem reading (h : Flowing limit bytes requests c) : c.reading = true := by
  obtain ⟨taken, -, hc⟩ := h
  exact hc.reading

theorem writing (h : Flowing limit bytes requests c) : c.writing = true := by
  obtain ⟨taken, -, hc⟩ := h
  exact hc.writing

theorem isDone (h : Flowing limit bytes requests c) : c.isDone = false := by
  obtain ⟨taken, -, hc⟩ := h
  exact hc.isDone

theorem takeOut (h : Flowing limit bytes requests c) {m : Message} {rest : Bytes}
    (hdecode : decode limit c.intake.buffer = (.ok (some m), rest)) :
    Flowing limit bytes (requests ++ m.request?.toList) (c.leave rest) := by
  obtain ⟨taken, hrequests, hc⟩ := h
  refine ⟨taken ++ [m], ?_, hc.takeOut hdecode⟩
  rw [List.filterMap_append, hrequests]
  cases hm : m.request? <;> simp [hm]

theorem queue (h : Flowing limit bytes requests c) (outbound : List Message) :
    Flowing limit bytes requests { c with outbound } :=
  h.map fun _ hc => hc.queue outbound

/-- When everything has been read, and what was read makes no message, the requests that were taken are
those of the bytes that were sent. -/
theorem all_taken (h : Flowing limit bytes requests c) (hread : c.intake.arrived = [])
    {rest : Bytes} (hdecode : decode limit c.intake.buffer = (.ok none, rest)) :
    (drain limit false bytes).halt = .waiting ∧
      requests = (drain limit false bytes).messages.filterMap Message.request? := by
  obtain ⟨taken, hrequests, hc⟩ := h
  obtain ⟨hhalt, hall⟩ := hc.all_taken hread hdecode
  exact ⟨hhalt, hall ▸ hrequests⟩

/-- The requests that were taken are the first of those that were sent, whatever is sent after them. -/
theorem requests_front (h : Flowing limit bytes requests c) (more : Bytes) :
    requests <+: (drain limit false (bytes ++ more)).messages.filterMap Message.request? := by
  obtain ⟨taken, rfl, hc⟩ := h
  exact (hc.front more).filterMap _

/-- Where what was read is refused, so is what was sent, whatever is sent after it. -/
theorem fault (h : Flowing limit bytes requests c) {fault : Fault} {rest : Bytes}
    (hdecode : decode limit c.intake.buffer = (.error fault, rest)) (more : Bytes) :
    ∃ other, (drain limit false (bytes ++ more)).halt = .fault other := by
  obtain ⟨taken, -, hc⟩ := h
  exact hc.fault hdecode more

end Flowing

/-! ## A connection in service -/

theorem bytesOn_nil (connection : Nat) : bytesOn connection [] = [] := rfl

theorem bytesOn_append (connection : Nat) (before after : List Op) :
    bytesOn connection (before ++ after) =
      bytesOn connection before ++ bytesOn connection after :=
  List.flatMap_append

/-- The line of a connection on which these bytes were sent. -/
structure Streams (s : Service) (connection limit : Nat) (bytes : Bytes) (l : Line) : Prop where
  line : s.history.lines[connection]? = some l
  limit_eq : l.connection.limit = limit
  written : ∀ m ∈ l.written, m.encode.length ≤ limit
  flowing : l.connection.closed = false →
    Flowing limit bytes (s.requestsOn connection) l.connection
  sent : l.connection.closed = false → ∀ x ∈ s.history.sent, x.connection = connection →
    x.isQueued = true

/-- A line that has closed stays closed, and so does what was written on it stay.  It closes only for a
message in its queue that is beyond the limit, or for what was read on it and is refused. -/
structure Lasts (limit : Nat) (l l' : Line) : Prop where
  written : l.written <+: l'.written
  closed : l.connection.closed = true → l'.connection.closed = true
  reason : l.connection.closed = false → l'.connection.closed = true →
    (∃ m ∈ l.connection.outbound, limit < m.encode.length) ∨
      ∃ fault rest, decode limit l.connection.intake.buffer = (.error fault, rest)

theorem Lasts.of_eq {limit : Nat} {l l' : Line} (h : l'.connection.closed = l.connection.closed)
    (hwritten : l.written <+: l'.written) : Lasts limit l l' where
  written := hwritten
  closed := fun hclosed => h.trans hclosed
  reason := by
    intro hopen hclosed
    cases hopen.symm.trans (h.symm.trans hclosed)

/-- A step on the line: what was sent on it afterwards, and what became of it. -/
def Runs (s' : Service) (connection limit : Nat) (bytes : Bytes) (l : Line) : Prop :=
  ∃ l', Streams s' connection limit bytes l' ∧ Lasts limit l l'

namespace Streams

variable {s : Service} {connection limit : Nat} {bytes : Bytes} {l : Line}

theorem connection?_eq (h : Streams s connection limit bytes l) :
    s.connection? connection = some l.connection := by
  rw [connection?, h.line]
  rfl

theorem isOpen_eq (h : Streams s connection limit bytes l) :
    s.isOpen connection = !l.connection.closed := by
  rw [isOpen, h.connection?_eq]
  rfl

theorem runs_self (h : Streams s connection limit bytes l) : Runs s connection limit bytes l :=
  ⟨l, h, .of_eq rfl List.prefix_rfl⟩

/-- Something happens elsewhere. -/
theorem runs_of_leaves (h : Streams s connection limit bytes l) {s' : Service}
    (hleaves : History.Leaves s.history s'.history connection)
    (hlog : s'.requestsOn connection = s.requestsOn connection) :
    Runs s' connection limit bytes l := by
  obtain ⟨outbound, hline⟩ := hleaves.line l h.line
  refine ⟨_, ⟨hline, h.limit_eq, h.written, ?_, ?_⟩, .of_eq rfl List.prefix_rfl⟩
  · intro hopen
    rw [hlog]
    exact (h.flowing hopen).queue outbound
  · intro hopen x hx hconnection
    rcases hleaves.sent l h.line hopen x hx hconnection with hx | hqueued
    · exact h.sent hopen x hx hconnection
    · exact hqueued

theorem line_change (h : Streams s connection limit bytes l) (f : Connection → Connection) :
    (s.change connection f).history.lines[connection]? =
      some { l with connection := f l.connection } := by
  show (s.history.lines.modify connection _)[connection]? = _
  rw [List.getElem?_modify_eq, h.line]
  rfl

theorem line_drain (h : Streams s connection limit bytes l) :
    (s.pass (.drain connection)).history.lines[connection]? = some l.drain := by
  show (s.history.lines.modify connection Line.drain)[connection]? = _
  rw [List.getElem?_modify_eq, h.line]
  rfl

theorem line_disconnect (h : Streams s connection limit bytes l)
    (hlive : s.history.isLive connection = true) :
    (s.pass (.disconnect connection)).history.lines[connection]? = some l.stop := by
  show (History.step s.history (.disconnect connection)).lines[connection]? = _
  rw [History.step, hlive, if_pos rfl]
  show (s.history.lines.modify connection Line.stop)[connection]? = _
  rw [List.getElem?_modify_eq, h.line]
  rfl

/-- Something happens to the connection. -/
theorem change (h : Streams s connection limit bytes l) {f : Connection → Connection} (hf : Tame f)
    {later : Bytes}
    (hflowing : l.connection.closed = false → (f l.connection).closed = false →
      Flowing limit later (s.requestsOn connection) (f l.connection)) :
    Streams (s.change connection f) connection limit later
      { l with connection := f l.connection } := by
  have hopen : (f l.connection).closed = false → l.connection.closed = false := by
    intro hopen
    rw [← Bool.not_eq_true] at hopen ⊢
    exact fun hclosed => hopen (hf.closed _ hclosed)
  exact ⟨h.line_change f, (hf.limit _).trans h.limit_eq, h.written,
    fun hlater => hflowing (hopen hlater) hlater, fun hlater => h.sent (hopen hlater)⟩

theorem runs_change (h : Streams s connection limit bytes l) {other : Nat}
    (hother : other ≠ connection) (f : Connection → Connection) :
    Runs (s.change other f) connection limit bytes l :=
  h.runs_of_leaves (History.Leaves.modify _ hother _ _) rfl

/-- The reader of a connection stops. -/
theorem runs_disconnect (h : Streams s connection limit bytes l) (other : Nat)
    (hreason : other = connection → l.connection.closed = false →
      ∃ fault rest, decode limit l.connection.intake.buffer = (.error fault, rest)) :
    Runs (s.pass (.disconnect other)) connection limit bytes l := by
  by_cases hother : other = connection
  · subst hother
    cases hlive : s.history.isLive other with
    | false =>
        have hstep : (s.pass (.disconnect other)).history = s.history :=
          if_neg (Bool.not_eq_true _ ▸ hlive)
        exact h.runs_of_leaves (.of_eq (by rw [hstep]) (by rw [hstep])) rfl
    | true =>
        refine ⟨l.stop, ⟨h.line_disconnect hlive, h.limit_eq, h.written, fun hopen => ?_,
          fun hopen => ?_⟩, ?_⟩
        · cases hopen
        · cases hopen
        · exact ⟨List.prefix_rfl, fun _ => rfl, fun hopen _ => .inr (hreason rfl hopen)⟩
  · exact h.runs_of_leaves (History.Leaves.disconnect _ hother) rfl

/-- The requests that came in, and the next message. -/
theorem requestsOn_receive (s : Service) (other : Nat) (m : Message) (connection : Nat) :
    (s.receive other m).requestsOn connection =
      s.requestsOn connection ++ if other = connection then m.request?.toList else [] := by
  unfold requestsOn receive
  cases m with
  | request r =>
      by_cases hother : other = connection
      · simp [hother, Message.request?]
      · simp [hother]
  | response r => simp [Message.request?]
  | event e => simp [Message.request?]

/-- A message is taken from the connection and comes in. -/
theorem runs_message (h : Streams s connection limit bytes l) {m : Message} {rest : Bytes}
    (hdecode : decode limit l.connection.intake.buffer = (.ok (some m), rest)) :
    Runs ((s.change connection fun c => c.leave rest).receive connection m) connection limit bytes
      l := by
  have hleft := h.line_change fun c => c.leave rest
  have hleaves := History.Leaves.receive (s.change connection fun c => c.leave rest).history
    connection m connection
  obtain ⟨outbound, hline⟩ := hleaves.line _ hleft
  refine ⟨_, ⟨hline, h.limit_eq, h.written, ?_, ?_⟩, .of_eq rfl List.prefix_rfl⟩
  · intro hopen
    rw [requestsOn_receive, if_pos rfl]
    exact ((h.flowing hopen).takeOut hdecode).queue outbound
  · intro hopen x hx hconnection
    rcases hleaves.sent _ hleft hopen x hx hconnection with hx | hqueued
    · exact h.sent hopen x hx hconnection
    · exact hqueued

/-- The reader of a connection looks for a message. -/
theorem runs_take (h : Streams s connection limit bytes l) (other : Nat) :
    Runs (s.take other) connection limit bytes l := by
  rcases s.take_cases other with ⟨-, heq⟩ | ⟨c, hc, -, hcase⟩
  · rw [heq]
    exact h.runs_self
  · by_cases hother : other = connection
    · subst hother
      obtain rfl := Option.some.inj (h.connection?_eq.symm.trans hc)
      rw [h.limit_eq] at hcase
      rcases hcase with ⟨m, rest, htaken, heq⟩ | ⟨rest, hdone, htaken, heq⟩ | ⟨hwhy, heq⟩ <;> rw [heq]
      · exact h.runs_message (decode_of_takeFirst htaken)
      · rw [hdone] at htaken
        refine ⟨_, h.change (tame_leave rest) fun hopen _ => ?_, .of_eq rfl List.prefix_rfl⟩
        exact (h.flowing hopen).map fun _ hc => hc.leave htaken
      · refine h.runs_disconnect other fun _ hopen => ?_
        rw [(h.flowing hopen).isDone] at hwhy
        rcases hwhy with hdone | hfault
        · cases hdone
        · exact hfault
    · rcases hcase with ⟨m, rest, -, heq⟩ | ⟨rest, -, -, heq⟩ | ⟨-, heq⟩ <;> rw [heq]
      · have hleaves := History.Leaves.receive (s.change other fun c => c.leave rest).history other m
          connection
        refine h.runs_of_leaves ((History.Leaves.modify _ hother _ _).trans hleaves) ?_
        rw [requestsOn_receive, if_neg hother, List.append_nil]
        rfl
      · exact h.runs_change hother _
      · exact h.runs_disconnect other fun hsame => absurd hsame hother

/-- The writer of a connection writes. -/
theorem runs_write (h : Streams s connection limit bytes l) (other : Nat) :
    Runs (s.write other) connection limit bytes l := by
  rcases s.write_cases other with ⟨-, heq⟩ | ⟨c, m, rest, hc, -, houtbound, hcase⟩
  · rw [heq]
    exact h.runs_self
  · by_cases hother : other = connection
    · subst hother
      obtain rfl := Option.some.inj (h.connection?_eq.symm.trans hc)
      rcases hcase with ⟨hfits, heq⟩ | ⟨hlarge, heq⟩ <;> rw [heq]
      · have hdrained : l.drain =
            { connection := { l.connection with outbound := rest }, written := l.written ++ [m] } := by
          unfold Line.drain
          rw [houtbound]
        have hline := h.line_drain
        rw [hdrained] at hline
        refine ⟨_, ⟨hline, h.limit_eq, ?_, fun hopen => (h.flowing hopen).queue rest, h.sent⟩,
          .of_eq rfl (List.prefix_append ..)⟩
        intro m' hm'
        rcases List.mem_append.mp hm' with hm' | hm'
        · exact h.written m' hm'
        · rw [List.mem_singleton.mp hm', ← h.limit_eq]
          exact hfits
      · refine ⟨_, h.change tame_giveUp fun _ hopen => (by cases hopen), List.prefix_rfl,
          fun _ => rfl, fun _ _ => ?_⟩
        refine .inl ⟨m, ?_, ?_⟩
        · rw [houtbound]
          exact List.mem_cons_self ..
        · rw [← h.limit_eq]
          exact Nat.not_le.mp hlarge
    · rcases hcase with ⟨-, heq⟩ | ⟨-, heq⟩ <;> rw [heq]
      · exact h.runs_of_leaves (History.Leaves.modify _ hother _ _) rfl
      · exact h.runs_change hother _

theorem runs_turn (h : Streams s connection limit bytes l) (n : Nat) (t : Server.Turn)
    (tasks : List (Nat × Event)) :
    Runs { s.pass (.turn n t) with tasks } connection limit bytes l :=
  h.runs_of_leaves (History.Leaves.turn s.history n t connection) rfl

/-- The writer of a connection that has closed stops. -/
theorem runs_quit (h : Streams s connection limit bytes l) (other : Nat) :
    Runs (s.quit other) connection limit bytes l := by
  rcases s.quit_cases other with heq | ⟨c, hc, hclosed, -, heq⟩ <;> rw [heq]
  · exact h.runs_self
  · by_cases hother : other = connection
    · subst hother
      obtain rfl := Option.some.inj (h.connection?_eq.symm.trans hc)
      refine ⟨_, h.change tame_quit fun hopen _ => ?_, .of_eq rfl List.prefix_rfl⟩
      cases hopen.symm.trans hclosed
    · exact h.runs_change hother _

theorem runs_notice (h : Streams s connection limit bytes l) (other : Nat) :
    Runs (s.notice other) connection limit bytes l := by
  rcases s.notice_cases other with heq | ⟨c, hc, hclosed, -, heq⟩ <;> rw [heq]
  · exact h.runs_self
  · refine h.runs_disconnect other fun hother hopen => ?_
    subst hother
    obtain rfl := Option.some.inj (h.connection?_eq.symm.trans hc)
    cases hopen.symm.trans hclosed

/-- Others do something that does not end the connection. -/
theorem runs_suffer (h : Streams s connection limit bytes l) {deed : Deed}
    (hdeed : (Op.deed deed).spares connection = true) :
    Runs (s.suffer deed) connection limit (bytes ++ bytesOn connection [.deed deed]) l := by
  cases deed with
  | connect peer most =>
      rw [show bytesOn connection [.deed (.connect peer most)] = [] from rfl, List.append_nil]
      have hlt := (List.getElem?_eq_some_iff.mp h.line).1
      exact h.runs_of_leaves (History.Leaves.connect _ peer most connection hlt) rfl
  | send other more =>
      by_cases hother : other = connection
      · subst hother
        rw [show bytesOn other [.deed (.send other more)] = more by simp [bytesOn]]
        refine ⟨_, h.change (tame_offer more) fun hopen _ => ?_, .of_eq ?_ List.prefix_rfl⟩
        · exact (h.flowing hopen).map fun _ hc => hc.offer hopen more
        · rcases offer_cases l.connection more with hoffer | ⟨hoffer, -⟩ <;> simp only [hoffer]
          rfl
      · rw [show bytesOn connection [.deed (.send other more)] = [] by simp [bytesOn, hother],
          List.append_nil]
        exact h.runs_change hother fun c => c.offer more
  | hangUp other =>
      rw [show bytesOn connection [.deed (.hangUp other)] = [] from rfl, List.append_nil]
      exact h.runs_change (of_decide_eq_true hdeed) _
  | cut other =>
      rw [show bytesOn connection [.deed (.cut other)] = [] from rfl, List.append_nil]
      exact h.runs_change (of_decide_eq_true hdeed) _

/-- The service does something of itself. -/
theorem runs_move (h : Streams s connection limit bytes l) (move : Move) :
    Runs (s.move move) connection limit bytes l := by
  have hturn : ∀ n stage t, Runs (s.turn n stage t) connection limit bytes l := by
    intro n stage t
    rcases s.turn_cases n stage t with ⟨-, heq⟩ | ⟨w, -, -, heq⟩ <;> rw [heq]
    · exact h.runs_self
    · exact h.runs_turn n _ s.tasks
  cases move with
  | read other size =>
      by_cases hother : other = connection
      · subst hother
        refine ⟨_, h.change (tame_readSome size) fun hopen _ => ?_, .of_eq ?_ List.prefix_rfl⟩
        · exact (h.flowing hopen).map fun _ hc => hc.readSome size
        · rcases readSome_cases l.connection size with ⟨-, hread⟩ | ⟨-, -, hread⟩ <;> simp only [hread]
      · exact h.runs_change hother fun c => c.readSome size
  | take other => exact h.runs_take other
  | notice other => exact h.runs_notice other
  | write other => exact h.runs_write other
  | quit other => exact h.runs_quit other
  | finish n => exact hturn n .working fun call => .finish call.plan.outcome
  | complete task =>
      show Runs (s.complete task) connection limit bytes l
      unfold Service.complete
      cases s.tasks[task]? with
      | none => exact h.runs_self
      | some left => exact h.runs_turn left.1 _ _
  | answer n => exact hturn n .ended fun _ => .answer
  | release n => exact hturn n .answered fun _ => .release

theorem step (h : Streams s connection limit bytes l) {op : Op} (hop : op.spares connection = true) :
    Runs (s.step op) connection limit (bytes ++ bytesOn connection [op]) l := by
  cases op with
  | deed deed => exact h.runs_suffer hop
  | move move =>
      rw [show bytesOn connection [.move move] = [] from rfl, List.append_nil]
      exact h.runs_move move

/-! ## At rest -/

section

variable (h : Streams s connection limit bytes l) (hquiet : s.IsQuiet)
  (hopen : l.connection.closed = false)

include h hquiet

/-- A move that is left would change nothing. -/
theorem eq_of_isQuiet {move : Move} {s' : Service} {l' : Line} (hmove : s.move move = s')
    (hl' : s'.history.lines[connection]? = some l') : l' = l := by
  rw [← hmove, hquiet move, h.line] at hl'
  exact (Option.some.inj hl').symm

theorem connection_of_isQuiet {move : Move} {f : Connection → Connection}
    (hmove : s.move move = s.change connection f) : f l.connection = l.connection :=
  congrArg Line.connection (h.eq_of_isQuiet hquiet hmove (h.line_change f))

include hopen

/-- Everything that has arrived has been read. -/
theorem arrived_of_isQuiet : l.connection.intake.arrived = [] := by
  have hread := h.connection_of_isQuiet hquiet (f := fun c => c.readSome 1)
    (show s.move (.read connection 1) = _ from rfl)
  rcases readSome_cases l.connection 1 with ⟨hnone, -⟩ | ⟨-, harrived, heq⟩
  · exact hnone (h.flowing hopen).reading
  · have hlength := Intake.length_arrived_read_lt
      (i := { l.connection.intake with size := l.connection.intake.filled + 1 })
      (by simp [Intake.room]) harrived
    have hsame := congrArg (fun c => c.intake.arrived.length) (heq.symm.trans hread)
    exact absurd hsame (Nat.ne_of_lt hlength)

/-- What has been read makes no message. -/
theorem decode_of_isQuiet :
    ∃ rest, decode limit l.connection.intake.buffer = (.ok none, rest) := by
  have hflowing := h.flowing hopen
  have hmove : s.move (.take connection) = s.take connection := rfl
  have hdone : l.connection.isDone = false := hflowing.isDone
  rcases s.take_cases connection with ⟨hreading, -⟩ | ⟨c, hc, -, hcase⟩
  · cases (hreading _ h.connection?_eq).symm.trans hflowing.reading
  · obtain rfl := Option.some.inj (h.connection?_eq.symm.trans hc)
    rw [h.limit_eq, hdone] at hcase
    rcases hcase with ⟨m, rest, htaken, heq⟩ | ⟨rest, -, htaken, -⟩ | ⟨-, heq⟩
    · -- the buffer would have been left shorter
      have hleaves := History.Leaves.receive (s.change connection fun c => c.leave rest).history
        connection m connection
      obtain ⟨outbound, hline⟩ := hleaves.line _ (h.line_change fun c => c.leave rest)
      have hsame := h.eq_of_isQuiet hquiet (hmove.trans heq) hline
      have hrest : rest = l.connection.intake.buffer :=
        congrArg (fun l => l.connection.intake.buffer) hsame
      exact absurd (congrArg List.length hrest) (Nat.ne_of_lt (length_takeFirst_lt htaken))
    · exact ⟨rest, htaken⟩
    · -- the connection would have closed
      have hlive : s.history.isLive connection = true :=
        isLive_of_connection? h.connection?_eq hflowing.reading
      have hsame := h.eq_of_isQuiet hquiet (hmove.trans heq) (h.line_disconnect hlive)
      have hclosed : l.stop.connection.closed = l.connection.closed :=
        congrArg (fun l => l.connection.closed) hsame
      cases hclosed.trans hopen

/-- What was queued has been written. -/
theorem outbound_of_isQuiet : l.connection.outbound = [] := by
  have hmove : s.move (.write connection) = s.write connection := rfl
  rcases s.write_cases connection with ⟨hnone, -⟩ | ⟨c, m, rest, hc, -, houtbound, hcase⟩
  · exact hnone _ h.connection?_eq (h.flowing hopen).writing
  · obtain rfl := Option.some.inj (h.connection?_eq.symm.trans hc)
    rcases hcase with ⟨-, heq⟩ | ⟨-, heq⟩
    · have hsame := h.eq_of_isQuiet hquiet (hmove.trans heq) h.line_drain
      have hrest : l.drain.connection.outbound = rest := by
        unfold Line.drain
        rw [houtbound]
      rw [hsame, houtbound] at hrest
      exact absurd (congrArg List.length hrest) (by simp)
    · have hclosed := congrArg Connection.closed
        (h.connection_of_isQuiet hquiet (hmove.trans heq))
      cases hclosed.trans hopen

/-- When no step is left, every message that was sent on an open connection has been taken, and all that
was queued on it has been written. -/
theorem at_rest :
    (drain limit false bytes).halt = .waiting ∧
      s.requestsOn connection = (drain limit false bytes).messages.filterMap Message.request? ∧
      l.connection.outbound = [] := by
  obtain ⟨rest, hdecode⟩ := h.decode_of_isQuiet hquiet hopen
  obtain ⟨hhalt, hrequests⟩ := (h.flowing hopen).all_taken (h.arrived_of_isQuiet hquiet hopen) hdecode
  exact ⟨hhalt, hrequests, h.outbound_of_isQuiet hquiet hopen⟩

end

end Streams

/-! ## The start -/

/-- Connections are made one after the other. -/
theorem getElem?_lines_connect (h : History) (connections : List (String × Nat)) {i : Nat}
    {peer : String} {limit : Nat} (hi : connections[i]? = some (peer, limit)) :
    ∃ id, (h.run (connections.map fun c => .connect c.1 c.2)).lines[h.lines.length + i]? =
      some { connection := { id, peer, limit } } := by
  have hkept : ∀ (connections : List (String × Nat)) (h : History) (j : Nat),
      j < h.lines.length →
      (h.run (connections.map fun c => .connect c.1 c.2)).lines[j]? = h.lines[j]? := by
    intro connections
    induction connections with
    | nil => exact fun h j _ => rfl
    | cons c connections ih =>
        intro h j hj
        have hlonger : j < (h.step (.connect c.1 c.2)).lines.length := by
          show j < (h.lines ++ [_]).length
          rw [List.length_append]
          exact Nat.lt_of_lt_of_le hj (Nat.le_add_right _ _)
        exact (ih _ j hlonger).trans (List.getElem?_append_left hj)
  induction connections generalizing h i with
  | nil => cases hi
  | cons c connections ih =>
      have hlength : (h.step (.connect c.1 c.2)).lines.length = h.lines.length + 1 :=
        List.length_append
      cases i with
      | zero =>
          obtain rfl := Option.some.inj hi
          refine ⟨h.lines.length, ?_⟩
          refine (hkept connections (h.step (.connect peer limit)) _ ?_).trans ?_
          · rw [hlength]
            exact Nat.lt_succ_self _
          · exact List.getElem?_concat_length
      | succ i =>
          obtain ⟨id, hid⟩ := ih (h.step (.connect c.1 c.2)) hi
          rw [hlength, Nat.add_assoc, Nat.add_comm 1] at hid
          exact ⟨id, hid⟩

/-- Opening channels makes no connection, and nothing is to be queued. -/
theorem lines_openChannels (h : History) (channels : List ChannelId) :
    (h.run (channels.map fun id => .openChannel id (Demo.handlers id.resource))).lines = h.lines ∧
      (h.run (channels.map fun id => .openChannel id (Demo.handlers id.resource))).sent = h.sent := by
  induction channels generalizing h with
  | nil => exact ⟨rfl, rfl⟩
  | cons id channels ih =>
      obtain ⟨hlines, hsent⟩ := ih (h.step (.openChannel id (Demo.handlers id.resource)))
      have hopened : (h.step (.openChannel id (Demo.handlers id.resource))).lines = h.lines ∧
          (h.step (.openChannel id (Demo.handlers id.resource))).sent = h.sent := by
        rw [History.step]
        split <;> exact ⟨rfl, rfl⟩
      exact ⟨hlines.trans hopened.1, hsent.trans hopened.2⟩

theorem sent_connect (h : History) (connections : List (String × Nat)) :
    (h.run (connections.map fun c => .connect c.1 c.2)).sent = h.sent := by
  induction connections generalizing h with
  | nil => rfl
  | cons c connections ih => exact ih (h.step (.connect c.1 c.2))

/-- At the start nothing was sent on a connection, and it is open. -/
theorem streams_start (channels : List ChannelId) {connections : List (String × Nat)}
    {connection : Nat} {peer : String} {limit : Nat}
    (hconnection : connections[connection]? = some (peer, limit)) :
    ∃ l, Streams (start channels connections) connection limit [] l ∧
      l.connection.closed = false := by
  have hrun : (start channels connections).history =
      (History.run {} (channels.map fun id => .openChannel id (Demo.handlers id.resource))).run
        (connections.map fun c => .connect c.1 c.2) := List.foldl_append
  obtain ⟨hlines, hsent⟩ := lines_openChannels {} channels
  obtain ⟨id, hid⟩ := getElem?_lines_connect
    (History.run {} (channels.map fun id => .openChannel id (Demo.handlers id.resource)))
    connections hconnection
  rw [hlines, ← hrun] at hid
  have hnone : (start channels connections).history.sent = [] := by
    rw [hrun, sent_connect, hsent]
  have hline : (start channels connections).history.lines[connection]? =
      some { connection := { id, peer, limit } } := by
    rw [← hid]
    exact congrArg _ (Nat.zero_add connection).symm
  refine ⟨_, ⟨hline, rfl, fun m hm => (by cases hm), fun _ => ?_, fun _ x hx => ?_⟩, rfl⟩
  · exact ⟨[], rfl, .start id peer⟩
  · rw [hnone] at hx
    cases hx

end Service

end MediaControl
