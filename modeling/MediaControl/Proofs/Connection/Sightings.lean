import MediaControl.Proofs.Connection.Writing
import MediaControl.Proofs.Header.Naming
import MediaControl.Proofs.Wire.RoundTrip
import MediaControl.Proofs.Wire.Taking
import MediaControl.Simulation.Watched

/-!
# What is seen of a stream (SPEC_FULL §4.3)

The takers of a connection are fixed while its stream lasts.  However the bytes of the stream arrive,
and however often the connection comes to rest in between, every message before the first fault goes
where its first `Channel-Identifier` header says, in order and once, and when the stream has ended every
taker is told so once, and why; then the connection is closed and nothing more is seen.

Main statements: `sight_eq_address` (where a message goes) and `Watched.observe_stream`.
-/

set_option autoImplicit false

namespace MediaControl

open MediaControl.Wire

/-! ## Where a message goes -/

namespace ChannelTable

/-- Where a message goes, by the text of the first header that should name its channel. -/
def address (takers : ChannelTable String) (m : Message) : Sighting :=
  match Headers.get? m.headers Catalogue.channelIdentifier with
  | none => .unrouted .missing m
  | some h =>
    match ChannelId.parse h.raw with
    | .error reason => .unrouted (.invalid (.ofCause (.illegalHeader h.name h.raw reason))) m
    | .ok channel =>
      match Table.get? takers (Text.trim channel.id) with
      | none => .unrouted (.unknown channel) m
      | some taker => .delivered taker m

/-- The takers that are told of the end, each as often as it is registered. -/
def told (takers : ChannelTable String) : List String :=
  takers.values.mergeSort fun a b => !(b < a)

theorem told_perm (takers : ChannelTable String) : takers.told.Perm takers.values :=
  List.mergeSort_perm ..

end ChannelTable

/-- A message that was read goes where the text of its header says. -/
theorem Watched.sight_eq_address (w : Watched) {m : Message} (h : m.FromWire) :
    w.sight m = w.takers.address m := by
  rw [Watched.sight, ChannelTable.route, Message.channelId,
    Headers.channelId_of_plain fun header hheader => (h.headers header hheader).2, Headers.contains,
    ChannelTable.address]
  cases Headers.get? m.headers Catalogue.channelIdentifier with
  | none => rfl
  | some header =>
      simp only
      cases ChannelId.parse header.raw with
      | error reason => rfl
      | ok channel =>
          have hlookup : ChannelTable.lookup w.takers channel.key =
              Table.get? w.takers (Text.trim channel.id) :=
            congrArg (Table.get? w.takers) channel.trim_key
          simp only [hlookup]
          cases Table.get? w.takers (Text.trim channel.id) with
          | none => rfl
          | some taker => rfl

namespace Watched

/-! ## Coming to rest -/

/-- The connection is open at both ends of its stream, and what it has to send can be written. -/
structure Flows (limit : Nat) (takers : ChannelTable String) (ended : Bool) (w : Watched) : Prop where
  limit_eq : w.connection.limit = limit
  takers_eq : w.takers = takers
  ended_eq : w.connection.ended = ended
  closed_eq : w.connection.closed = false
  reading_eq : w.connection.reading = true
  writing_eq : w.connection.writing = true
  fits : ∀ m ∈ w.connection.outbound, w.connection.Fits m

/-- The connection takes nothing from its stream any more. -/
structure Stopped (takers : ChannelTable String) (w : Watched) : Prop where
  takers_eq : w.takers = takers
  closed_eq : w.connection.closed = true
  reading_eq : w.connection.reading = false

theorem toList_foldl_push (w : Watched) (ms : List Message) :
    (ms.foldl (fun seen m => seen.push (w.sight m)) #[]).toList = ms.map w.sight := by
  simp

@[simp] theorem connection_rest (w : Watched) (written : Bytes) (c : Connection) :
    (w.rest written c).2.connection = c := by
  unfold rest
  split <;> rfl

@[simp] theorem takers_rest (w : Watched) (written : Bytes) (c : Connection) :
    (w.rest written c).2.takers = w.takers := by
  unfold rest
  split <;> rfl

/-- What the connection takes out when it comes to rest. -/
def taken (w : Watched) : Intake.Taken (Array Sighting) :=
  w.connection.intake.takeAll w.connection.limit w.connection.ended (fun _ _ => false)
    (fun seen m => seen.push (w.sight m)) #[]

/-- A connection that takes nothing from its stream any more shows nothing more. -/
theorem settle_of_stopped {takers : ChannelTable String} {w : Watched} (h : w.Stopped takers) :
    w.settle.1 = [] ∧ w.settle.2.2.Stopped takers := by
  have hreading : w.connection.write.2.reading = false := by
    rw [Connection.reading_write, h.reading_eq]
  have hclosed := w.connection.closed_write h.closed_eq
  unfold settle
  simp only [Connection.pump, hreading, Bool.false_eq_true, if_false]
  refine ⟨trivial, ?_, ?_, ?_⟩
  · rw [takers_rest, h.takers_eq]
  · rw [connection_rest]
    exact hclosed
  · rw [connection_rest, Connection.afterPump, hreading]
    rfl

section

variable {limit : Nat} {takers : ChannelTable String} {ended : Bool} {w : Watched}

theorem Flows.write_eq (h : w.Flows limit takers ended) :
    w.connection.write =
      (w.connection.outbound.flatMap Message.encode, { w.connection with outbound := [] }) :=
  Connection.write_of_fits h.closed_eq h.writing_eq h.fits

/-- A stream that waits for more bytes: the messages before them are seen. -/
theorem Flows.settle_of_waiting (h : w.Flows limit takers ended) (hhalt : w.taken.halt = .waiting) :
    w.settle.1 = w.taken.state.toList ∧ w.settle.2.2.Flows limit takers ended ∧
      w.settle.2.2.connection.intake = w.taken.intake := by
  have hsettle : w.settle = (w.taken.state.toList,
      w.rest (w.connection.outbound.flatMap Message.encode)
        { w.connection with outbound := [], intake := w.taken.intake, reading := true }) := by
    unfold taken at hhalt ⊢
    unfold settle
    simp only [h.write_eq, Connection.pump, h.reading_eq, if_true, hhalt, h.closed_eq,
      Bool.false_eq_true, if_false]
    rfl
  rw [hsettle]
  refine ⟨rfl, ⟨?_, ?_, ?_, ?_, ?_, ?_, ?_⟩, ?_⟩
  · rw [connection_rest, h.limit_eq]
  · rw [takers_rest, h.takers_eq]
  · rw [connection_rest, h.ended_eq]
  · rw [connection_rest, h.closed_eq]
  · rw [connection_rest]
  · rw [connection_rest, h.writing_eq]
  · rw [connection_rest]
    intro m hm
    cases hm
  · rw [connection_rest]

/-- A stream that ends or is refused: the messages before are seen, and every taker is told of it. -/
theorem Flows.settle_of_halted (h : w.Flows limit takers ended) (hhalt : w.taken.halt ≠ .waiting) :
    ∃ reason : Error,
      reason.kind = (if w.taken.halt = .ended then .connectionClosed else .framing) ∧
      w.settle.1 = w.taken.state.toList ++ w.told.map (.closed · reason) ∧
      w.settle.2.2.Stopped takers := by
  obtain ⟨reason, hkind, hpump⟩ : ∃ reason : Error,
      reason.kind = (if w.taken.halt = .ended then .connectionClosed else .framing) ∧
      (w.connection.write.2.pump (fun _ _ => false) (fun seen m => seen.push (w.sight m)) #[]) =
        ⟨w.taken.state, some reason, w.taken.intake⟩ := by
    unfold taken at hhalt ⊢
    simp only [h.write_eq, Connection.pump, h.reading_eq, if_true]
    cases hcame : (w.connection.intake.takeAll w.connection.limit w.connection.ended
        (fun _ _ => false) (fun seen m => seen.push (w.sight m)) #[]).halt with
    | waiting => exact absurd hcame hhalt
    | ended => exact ⟨.ofCause .peerClosed, rfl, rfl⟩
    | fault fault => exact ⟨.framing fault, rfl, rfl⟩
  refine ⟨reason, hkind, ?_⟩
  unfold settle
  simp only [hpump]
  refine ⟨trivial, ?_, ?_, ?_⟩
  · rw [takers_rest, h.takers_eq]
  · rw [connection_rest]
    exact Connection.closed_write _ rfl
  · rw [connection_rest, Connection.reading_write]
    exact Bool.and_false _

end

/-- The bytes that have arrived and make no message yet, read or not. -/
def pending (w : Watched) : Bytes := w.connection.intake.buffer ++ w.connection.intake.arrived

theorem taken_agrees (w : Watched) :
    Intake.Agrees (fun seen m => seen.push (w.sight m)) #[]
      (drain w.connection.limit w.connection.ended w.pending) w.taken :=
  Intake.takeAll_agrees ..

theorem map_sight_eq (w : Watched) {ms : List Message} (h : ∀ m ∈ ms, m.FromWire) :
    ms.map w.sight = ms.map w.takers.address :=
  List.map_congr_left fun m hm => w.sight_eq_address (h m hm)

/-! ## Runs -/

/-- What happens at a connection: bytes are sent to it, a message is queued on it, or it comes to
rest. -/
inductive Occasion where
  | arrival (chunk : Bytes)
  | sending (m : Message)
  | rest

/-- What is seen when something happens, and the connection then. -/
def occur (w : Watched) : Occasion → List Sighting × Watched
  | .arrival chunk => ([], { w with connection := w.connection.offer chunk })
  | .sending m =>
    match w.connection.send m with
    | .ok connection => ([], { w with connection })
    | .error _ => ([], w)
  | .rest => (w.settle.1, w.settle.2.2)

/-- What is seen while one thing happens after the other. -/
def run (w : Watched) : List Occasion → List Sighting × Watched
  | [] => ([], w)
  | o :: os => ((w.occur o).1 ++ ((w.occur o).2.run os).1, ((w.occur o).2.run os).2)

/-- The bytes that are sent to the connection. -/
def Occasion.bytes : Occasion → Bytes
  | .arrival chunk => chunk
  | .sending _ | .rest => []

/-- What is queued keeps to the limit. -/
def Occasion.Fits (limit : Nat) : Occasion → Prop
  | .sending m => m.encode.length ≤ limit
  | .arrival _ | .rest => True

/-- The other end sends no more. -/
def endInput (w : Watched) : Watched := { w with connection := w.connection.endInput }

/-- What is seen of a stream from its beginning, past its end, until the connection has come to rest and
beyond. -/
def observe (w : Watched) (before after : List Occasion) : List Sighting × Watched :=
  let seen := w.run before
  let last := seen.2.endInput.run (.rest :: after)
  (seen.1 ++ last.1, last.2)

/-- A connection that has just been made. -/
def start (id : Nat) (peer : String) (limit : Nat) (takers : ChannelTable String) : Watched :=
  { connection := { id, peer, limit }, takers }

/-- Nothing is seen of a connection that takes nothing from its stream any more. -/
theorem run_of_stopped {takers : ChannelTable String} {w : Watched} (h : w.Stopped takers)
    (os : List Occasion) : (w.run os).1 = [] ∧ (w.run os).2.Stopped takers := by
  have hstep : ∀ (w : Watched) (o : Occasion), w.Stopped takers →
      (w.occur o).1 = [] ∧ (w.occur o).2.Stopped takers := by
    intro w o h
    cases o with
    | arrival chunk =>
        refine ⟨rfl, h.takers_eq, ?_, ?_⟩
        all_goals
          simp only [occur, Connection.offer]
          split
        · exact h.closed_eq
        · exact h.closed_eq
        · exact h.reading_eq
        · exact h.reading_eq
    | sending m =>
        rw [occur, Connection.send, if_pos h.closed_eq]
        exact ⟨rfl, h⟩
    | rest => exact settle_of_stopped h
  induction os generalizing w with
  | nil => exact ⟨rfl, h⟩
  | cons o os ih =>
      obtain ⟨hseen, hnext⟩ := hstep w o h
      obtain ⟨hlater, hlast⟩ := ih hnext
      rw [run, hseen, hlater]
      exact ⟨rfl, hlast⟩

/-! ## What was seen so far -/

/-- What was seen while bytes were sent: the messages that are complete in them, unless they are still
on their way, and the end, if there was a fault. -/
inductive Follows (limit : Nat) (takers : ChannelTable String) (sent : Bytes) (seen : List Sighting)
    (w : Watched) : Prop
  | flowing (past : List Message) (flows : w.Flows limit takers false)
      (hseen : seen = past.map takers.address)
      (hdrain : ∀ ended more,
        drain limit ended (sent ++ more) = (drain limit ended (w.pending ++ more)).after past)
  | stopped {fault : Fault} {reason : Error} (hfault : (drain limit false sent).halt = .fault fault)
      (hkind : reason.kind = .framing)
      (hseen : seen = (drain limit false sent).messages.map takers.address ++
        takers.told.map (.closed · reason))
      (stopped : w.Stopped takers)

section

variable {limit : Nat} {takers : ChannelTable String} {sent : Bytes} {seen : List Sighting}
  {w : Watched}

theorem Flows.toList_taken {ended : Bool} (h : w.Flows limit takers ended) :
    w.taken.state.toList = (drain limit false w.pending).messages.map takers.address := by
  have hmessages : (drain limit ended w.pending).messages = (drain limit false w.pending).messages := by
    cases ended with
    | false => rfl
    | true => exact (drain_ended limit w.pending).1
  rw [w.taken_agrees.state_eq, h.limit_eq, h.ended_eq, hmessages, toList_foldl_push,
    w.map_sight_eq fromWire_of_mem_drain, h.takers_eq]

theorem Follows.arrival (h : Follows limit takers sent seen w) (chunk : Bytes) :
    Follows limit takers (sent ++ chunk) seen (w.occur (.arrival chunk)).2 := by
  cases h with
  | flowing past flows hseen hdrain =>
      have hoffer : w.connection.offer chunk = w.connection.receive chunk := by
        simp [Connection.offer, Connection.deafness?, flows.ended_eq, flows.closed_eq]
      have hpending : (w.occur (.arrival chunk)).2.pending = w.pending ++ chunk := by
        simp [occur, pending, hoffer, Connection.receive, Intake.receive]
      refine .flowing past ?_ hseen ?_
      · rw [occur, hoffer]
        exact ⟨flows.limit_eq, flows.takers_eq, flows.ended_eq, flows.closed_eq, flows.reading_eq,
          flows.writing_eq, flows.fits⟩
      · intro ended more
        rw [hpending, List.append_assoc, List.append_assoc]
        exact hdrain ended (chunk ++ more)
  | stopped hfault hkind hseen stopped =>
      obtain ⟨⟨other, hother⟩, hsame⟩ := drain_append_of_fault hfault false chunk
      refine .stopped hother hkind ?_ (run_of_stopped stopped [.arrival chunk]).2
      rw [hsame, hseen]

theorem Follows.sending (h : Follows limit takers sent seen w) {m : Message}
    (hm : m.encode.length ≤ limit) :
    Follows limit takers sent seen (w.occur (.sending m)).2 := by
  cases h with
  | flowing past flows hseen hdrain =>
      refine .flowing past ?_ hseen ?_
      all_goals simp only [occur, Connection.send, flows.closed_eq, Bool.false_eq_true, if_false]
      · refine ⟨flows.limit_eq, flows.takers_eq, flows.ended_eq, rfl, flows.reading_eq,
          flows.writing_eq, fun other hother => ?_⟩
        rcases List.mem_append.mp hother with hother | hother
        · exact flows.fits other hother
        · rw [List.mem_singleton.mp hother]
          exact Nat.le_trans hm (Nat.le_of_eq flows.limit_eq.symm)
      · exact hdrain
  | stopped hfault hkind hseen stopped =>
      exact .stopped hfault hkind hseen (run_of_stopped stopped [.sending m]).2

theorem Follows.rest (h : Follows limit takers sent seen w) :
    Follows limit takers sent (seen ++ (w.occur .rest).1) (w.occur .rest).2 := by
  cases h with
  | flowing past flows hseen hdrain =>
      -- what comes out of the pending bytes is seen behind the past, and only their rest stays pending
      have hsent := hdrain false []
      rw [List.append_nil, List.append_nil] at hsent
      have hagrees := w.taken_agrees
      rw [flows.limit_eq, flows.ended_eq] at hagrees
      cases hhalt : (drain limit false w.pending).halt with
      | ended => exact absurd hhalt (drain_ne_ended limit w.pending)
      | waiting =>
          obtain ⟨htaken, hbuffer, harrived⟩ := hagrees.rest_eq fun fault hfault => by
            rw [hhalt] at hfault
            cases hfault
          obtain ⟨hnew, hflows, hintake⟩ := flows.settle_of_waiting (htaken.trans hhalt)
          have hpending : (w.occur .rest).2.pending = (drain limit false w.pending).rest := by
            rw [occur, pending, hintake, hbuffer, harrived, List.append_nil]
          refine .flowing (past ++ (drain limit false w.pending).messages) hflows ?_ ?_
          · rw [hseen, List.map_append, ← flows.toList_taken]
            exact congrArg _ hnew
          · intro ended more
            rw [hdrain, drain_append_of_waiting hhalt, hpending, Drained.after_after]
      | fault fault =>
          obtain ⟨other, hother⟩ := hagrees.fault_of_fault hhalt
          have hhalted : w.taken.halt ≠ .waiting := by
            rw [hother]
            intro hwaiting
            cases hwaiting
          obtain ⟨reason, hkind, hnew, hstopped⟩ := flows.settle_of_halted hhalted
          rw [hother, if_neg (by intro hended; cases hended)] at hkind
          refine .stopped (congrArg Drained.halt hsent |>.trans hhalt) hkind ?_ hstopped
          have htold : w.told = takers.told := congrArg ChannelTable.told flows.takers_eq
          rw [hsent, Drained.messages_after, List.map_append, hseen, List.append_assoc,
            ← flows.toList_taken, ← htold]
          exact congrArg _ hnew
  | stopped hfault hkind hseen stopped =>
      obtain ⟨hnothing, hstopped⟩ := settle_of_stopped stopped
      rw [show (w.occur .rest).1 = [] from hnothing, List.append_nil]
      exact .stopped hfault hkind hseen hstopped

theorem Follows.run (h : Follows limit takers sent seen w) {os : List Occasion}
    (hos : ∀ o ∈ os, o.Fits limit) :
    Follows limit takers (sent ++ os.flatMap Occasion.bytes) (seen ++ (w.run os).1) (w.run os).2 := by
  -- one occasion after the other; what was sent and what was seen grow with each
  induction os generalizing sent seen w with
  | nil =>
      rw [List.flatMap_nil, List.append_nil, Watched.run, List.append_nil]
      exact h
  | cons o os ih =>
      have hstep : Follows limit takers (sent ++ o.bytes) (seen ++ (w.occur o).1) (w.occur o).2 := by
        cases o with
        | arrival chunk =>
            rw [occur, List.append_nil]
            exact h.arrival chunk
        | sending m =>
            have hnothing : (w.occur (.sending m)).1 = [] := by
              rw [occur]
              split <;> rfl
            rw [hnothing, Occasion.bytes, List.append_nil, List.append_nil]
            exact h.sending (hos _ (List.mem_cons_self ..))
        | rest =>
            rw [Occasion.bytes, List.append_nil]
            exact h.rest
      have hlater := ih hstep fun other hother => hos other (List.mem_cons_of_mem _ hother)
      rw [List.append_assoc, List.append_assoc] at hlater
      rw [List.flatMap_cons, Watched.run]
      exact hlater

/-- When its stream has ended, the messages that are pending are seen, and the takers are told. -/
theorem Flows.settle_of_ended (h : w.Flows limit takers true) :
    ∃ reason : Error,
      reason.kind =
        (if (drain limit true w.pending).halt = .ended then .connectionClosed else .framing) ∧
      w.settle.1 = (drain limit false w.pending).messages.map takers.address ++
        takers.told.map (.closed · reason) ∧
      w.settle.2.2.Stopped takers := by
  have hagrees := w.taken_agrees
  rw [h.limit_eq, h.ended_eq] at hagrees
  obtain ⟨hhalted, hended⟩ := hagrees.halt_of_ended
  obtain ⟨reason, hkind, hnew, hstopped⟩ := h.settle_of_halted hhalted
  have htold : w.told = takers.told := congrArg ChannelTable.told h.takers_eq
  refine ⟨reason, hkind.trans (if_congr hended rfl rfl), ?_, hstopped⟩
  rw [hnew, h.toList_taken, htold]

/-- When the stream ends, the rest of its messages are seen, and the takers are told why there will be
no more. -/
theorem Follows.ending (h : Follows limit takers sent seen w) (after : List Occasion) :
    ∃ reason : Error,
      reason.kind = (if (drain limit false sent).isClean then .connectionClosed else .framing) ∧
      seen ++ (w.endInput.run (.rest :: after)).1 =
        (drain limit false sent).messages.map takers.address ++ takers.told.map (.closed · reason) ∧
      (w.endInput.run (.rest :: after)).2.Stopped takers := by
  cases h with
  | flowing past flows hseen hdrain =>
      have hended : w.endInput.Flows limit takers true :=
        ⟨flows.limit_eq, flows.takers_eq, rfl, flows.closed_eq, flows.reading_eq, flows.writing_eq,
          flows.fits⟩
      have hwhole : ∀ ended,
          drain limit ended sent = (drain limit ended w.endInput.pending).after past := by
        intro ended
        have hnothing := hdrain ended []
        rw [List.append_nil, List.append_nil] at hnothing
        exact hnothing
      obtain ⟨reason, hkind, hnew, hstopped⟩ := hended.settle_of_ended
      obtain ⟨hnothing, hlast⟩ := run_of_stopped hstopped after
      refine ⟨reason, hkind.trans (if_congr ?_ rfl rfl), ?_, hlast⟩
      · rw [← halt_drain_ended_iff, hwhole, Drained.halt_after]
      · have hrun : (w.endInput.run (.rest :: after)).1 = w.endInput.settle.1 :=
          (congrArg (w.endInput.settle.1 ++ ·) hnothing).trans (List.append_nil _)
        rw [hrun, hnew, hseen, hwhole, Drained.messages_after, List.map_append, List.append_assoc]
  | stopped hfault hkind hseen stopped =>
      have hended : w.endInput.Stopped takers :=
        ⟨stopped.takers_eq, stopped.closed_eq, stopped.reading_eq⟩
      obtain ⟨hnothing, hlast⟩ := run_of_stopped hended (.rest :: after)
      have hclean : (drain limit false sent).isClean = false := by simp [Drained.isClean, hfault]
      rw [hclean, hnothing, List.append_nil]
      exact ⟨_, hkind, hseen, hlast⟩

end

/-- However the bytes of a stream arrive and whatever is sent meanwhile, every message before the first
fault is seen where its header says, in order and once; then every taker is told of the end as often as
it is registered, and the reason is a fault of framing unless the stream ended between two messages;
then the connection is closed, the takers are the same, and nothing more is seen. -/
theorem observe_stream (id : Nat) (peer : String) (limit : Nat) (takers : ChannelTable String)
    (before after : List Occasion) (hfits : ∀ o ∈ before, o.Fits limit) :
    ∃ told : List String, ∃ reason : Error, told.Perm takers.values ∧
      reason.kind = (if (drain limit false (before.flatMap Occasion.bytes)).isClean
        then .connectionClosed else .framing) ∧
      ((start id peer limit takers).observe before after).1 =
        (drain limit false (before.flatMap Occasion.bytes)).messages.map takers.address ++
          told.map (.closed · reason) ∧
      ((start id peer limit takers).observe before after).2.connection.closed = true ∧
      ((start id peer limit takers).observe before after).2.takers = takers := by
  have hstart : Follows limit takers [] [] (start id peer limit takers) := by
    refine .flowing [] ⟨rfl, rfl, rfl, rfl, rfl, rfl, fun m hm => (by cases hm)⟩ rfl ?_
    intro ended more
    rfl
  obtain ⟨reason, hkind, hseen, hstopped⟩ := (hstart.run hfits).ending after
  rw [List.nil_append] at hkind hseen
  exact ⟨takers.told, reason, takers.told_perm, hkind, hseen, hstopped.closed_eq, hstopped.takers_eq⟩

/-- A request on a channel that is registered, cut in two, one without a channel, and the beginning of
a third; a message is sent meanwhile. -/
def cutStream : List Occasion :=
  [.arrival (Utf8.encode "MRCP/2.0 1 STOP 1\nChannel-Identif"), .rest, .sending (noted []),
    .arrival (Utf8.encode "ier: a @recorder\n\nMRCP/2.0 1 STOP 2\n\nMRCP")]

/-- Both requests of that stream are seen, the first by its taker, who is told of a fault of framing
then, and nothing is seen of the bytes that arrive later. -/
theorem observe_stream_cut :
    (∀ o ∈ cutStream, o.Fits 101) ∧
      ∃ told : List String, ∃ reason : Error, told.Perm ["x"] ∧ reason.kind = .framing ∧
        ((start 1 "peer" 101 ⟨[("a", "x")]⟩).observe cutStream [.arrival [77], .rest]).1 =
          (drain 101 false (cutStream.flatMap Occasion.bytes)).messages.map
            (ChannelTable.address ⟨[("a", "x")]⟩) ++ told.map (.closed · reason) ∧
        (drain 101 false (cutStream.flatMap Occasion.bytes)).messages.length = 2 := by
  have hfits : ∀ o ∈ cutStream, o.Fits 101 := by
    intro o ho
    simp only [cutStream, List.mem_cons, List.not_mem_nil, or_false] at ho
    rcases ho with rfl | rfl | rfl | rfl
    · trivial
    · trivial
    · exact show (noted []).encode.length ≤ 101 by decide +kernel
    · trivial
  obtain ⟨told, reason, htold, hkind, hseen, -, -⟩ :=
    observe_stream 1 "peer" 101 ⟨[("a", "x")]⟩ cutStream [.arrival [77], .rest] hfits
  have hclean : (drain 101 false (cutStream.flatMap Occasion.bytes)).isClean = false := by
    decide +kernel
  rw [hclean] at hkind
  exact ⟨hfits, told, reason, htold, hkind, hseen, by decide +kernel⟩

end Watched

end MediaControl
