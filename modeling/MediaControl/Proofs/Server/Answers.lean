import MediaControl.Proofs.Server.Cases
import MediaControl.Server.Demo

/-!
# What is queued on account of a request (SPEC_FULL §4.6)

Every request that comes in is answered once, by the server at once or by a handler when it has ended,
and the events that are reported on it follow its response in the order of the reports, however the
handler, whoever goes on in its place and the server take their turns.

Main statements: `answered_once` and `events_follow_response`.
-/

set_option autoImplicit false

namespace MediaControl.Server

/-! ## The response -/

namespace Case

variable {k : Case}

/-- The response of a message and its connection, if it is one. -/
def responseOf? : Nat × Message → Option (Nat × Response)
  | (connection, .response r) => some (connection, r)
  | _ => none

/-- A response is to be queued exactly once. -/
theorem filterMap_messages (k : Case) :
    (k.messages.map fun m => (k.connection, m)).filterMap responseOf? =
      if k.isAnswered then [(k.connection, k.response)] else [] := by
  have hevents : ∀ events : List Event,
      ((events.map fun e => Message.event (k.addressed e)).map fun m => (k.connection, m)).filterMap
        responseOf? = [] := by
    intro events
    induction events with
    | nil => rfl
    | cons e events ih => exact ih
  unfold messages isAnswered
  cases k.stage with
  | working => rfl
  | ended => rfl
  | answered => rfl
  | released =>
      rw [List.map_cons, List.filterMap_cons, hevents]
      rfl

theorem channelId_response {channel : ChannelId} {handler : Handler}
    (h : k.ruling = .handled channel handler) :
    Headers.channelId k.response.headers = .ok channel := by
  rw [response, h]
  unfold signed
  cases k.outcome with
  | some given => exact Headers.channelId_stamp given.headers channel
  | none => exact Headers.channelId_stamp [] channel

theorem isAnswered_turn (k : Case) {channel : ChannelId} {handler : Handler}
    (h : k.ruling = .handled channel handler) (outcome : Option Response) :
    ((k.turn (.finish outcome)).turn .answer).isAnswered = true := by
  rcases k with ⟨connection, request, ruling, stage, given, events⟩
  cases h
  cases stage <;> rfl

end Case

/-- The server refuses a request under its id. -/
theorem id_of_rule_eq_refused {d : Docket} {connection : Nat} {r : Request} {response : Response}
    (h : d.rule connection r = .refused response) : response.id = r.id := by
  have hrefuse : ∀ status headers, Ruling.refuse r status headers = .refused response →
      response.id = r.id := by
    rintro status headers hsame
    cases hsame
    rfl
  unfold Docket.rule Opening.rule at h
  repeat' split at h
  all_goals first
    | exact hrefuse _ _ h
    | cases h

/-- What is true of every case: it is ruled for its request, and one that is refused is answered. -/
structure Case.Proper (k : Case) : Prop where
  id : ∀ response, k.ruling = .refused response → response.id = k.request.id
  released : ∀ response, k.ruling = .refused response → k.stage = .released

theorem Case.Proper.turn {k : Case} (h : k.Proper) (t : Turn) : (k.turn t).Proper := by
  constructor
  · intro response hruling
    rw [ruling_turn] at hruling
    rw [request_turn]
    exact h.id response hruling
  · intro response hruling
    rw [ruling_turn] at hruling
    have hsame : k.turn t = k := by
      unfold Case.turn
      rw [hruling]
    rw [hsame]
    exact h.released response hruling

theorem Case.Proper.id_response {k : Case} (h : k.Proper) : k.response.id = k.request.id := by
  unfold response
  cases hruling : k.ruling with
  | refused response => exact h.id response hruling
  | handled channel handler =>
      simp only [signed]
      cases k.outcome <;> rfl

namespace Docket

variable {d : Docket}

theorem proper_enter (h : ∀ k ∈ d.cases, k.Proper) (connection : Nat) (r : Request) :
    ∀ k ∈ (d.enter connection r).cases, k.Proper := by
  intro k hk
  rcases List.mem_append.mp hk with hk | hk
  · exact h k hk
  · rw [List.mem_singleton.mp hk]
    constructor
    · intro response hruling
      exact id_of_rule_eq_refused hruling
    · intro response hruling
      have hrule : d.rule connection r = .refused response := hruling
      rw [hrule]
      rfl

theorem proper_step (h : ∀ k ∈ d.cases, k.Proper) (op : Op) : ∀ k ∈ (d.step op).cases, k.Proper := by
  cases op with
  | openChannel id handlers =>
      rw [step, cases_openChannel]
      exact h
  | openNamed text handlers =>
      rw [step]
      split
      · rw [cases_openChannel]
        exact h
      · exact h
  | receive connection m =>
      cases m with
      | request r =>
          rw [step]
          split
          · exact proper_enter h connection r
          · exact h
      | response r => exact h
      | event e => exact h
  | disconnect connection =>
      rw [step]
      split <;> exact h
  | turn n t =>
      intro k hk
      rw [step] at hk
      obtain ⟨i, hi⟩ := List.getElem?_of_mem hk
      rw [List.getElem?_modify] at hi
      obtain ⟨k₀, hk₀, rfl⟩ := Option.map_eq_some_iff.mp hi
      have hproper := h k₀ (List.mem_of_getElem? hk₀)
      split
      · exact hproper.turn t
      · exact hproper
  | _ => exact h

theorem proper_run (h : ∀ k ∈ d.cases, k.Proper) (ops : List Op) :
    ∀ k ∈ (d.run ops).cases, k.Proper := by
  induction ops generalizing d with
  | nil => exact h
  | cons op ops ih => exact ih (proper_step h op)

end Docket

namespace History

/-- The responses that were to be queued on account of a request, with their connections. -/
def responsesTo (h : History) (request : Nat) : List (Nat × Response) :=
  (h.sentFor request).filterMap Case.responseOf?

theorem responsesTo_eq {h : History} {d : Docket} (hm : Mirrors h d) {n : Nat} {k : Case}
    (hk : d.cases[n]? = some k) :
    h.responsesTo n = if k.isAnswered then [(k.connection, k.response)] else [] := by
  rw [responsesTo, hm.sent, hk, Option.map_some, Option.getD_some, Case.filterMap_messages]

end History

/-- Every request that comes in to a server is answered once, on its connection and under its id, as the
docket says, and nothing else is queued as an answer: at once if it is refused, and otherwise when
its handler has returned or broken down and the response has been queued, under the name of the
channel.  Until then there is no answer, and whatever the handler comes to, there is one after it. -/
theorem answered_once (ops : List Op) :
    let h := History.run {} ops
    let d := Docket.run {} ops
    h.asked = d.cases.length ∧ (∀ n, d.cases.length ≤ n → h.sentFor n = []) ∧ h.Faithful ∧
    ∀ n k, d.cases[n]? = some k →
      h.responsesTo n = (if k.isAnswered then [(k.connection, k.response)] else []) ∧
      k.response.id = k.request.id ∧
      match k.ruling with
      | .refused response => k.isAnswered = true ∧ k.response = response
      | .handled channel _ =>
        Headers.channelId k.response.headers = .ok channel ∧
        ∀ outcome, (h.run [.turn n (.finish outcome), .turn n .answer]).responsesTo n =
          [(k.connection, ((k.turn (.finish outcome)).turn .answer).response)] := by
  intro h d
  have hm : Mirrors h d := mirrors_start.run ops
  have hproper : ∀ k ∈ d.cases, k.Proper :=
    Docket.proper_run (d := {}) (fun k hk => by cases hk) ops
  refine ⟨hm.asked, ?_, ?_, ?_⟩
  · intro n hn
    rw [hm.sent, List.getElem?_eq_none hn]
    rfl
  · exact History.faithful_start.run ops
  · intro n k hk
    have hcase := hproper k (List.mem_of_getElem? hk)
    refine ⟨History.responsesTo_eq hm hk, hcase.id_response, ?_⟩
    cases hruling : k.ruling with
    | refused response =>
        refine ⟨?_, by rw [Case.response, hruling]⟩
        rw [Case.isAnswered, hcase.released response hruling]
        rfl
    | handled channel handler =>
        refine ⟨Case.channelId_response hruling, ?_⟩
        intro outcome
        have hanswered : (d.run [.turn n (.finish outcome), .turn n .answer]).cases[n]? =
            some ((k.turn (.finish outcome)).turn .answer) := by
          show ((d.step (.turn n (.finish outcome))).step (.turn n .answer)).cases[n]? = _
          rw [Mirrors.getElem?_turn, if_pos rfl, Mirrors.getElem?_turn, if_pos rfl, hk]
          rfl
        have hresponses := History.responsesTo_eq
          (hm.run [.turn n (.finish outcome), .turn n .answer]) hanswered
        rw [k.isAnswered_turn hruling outcome, if_pos rfl] at hresponses
        simp only [Case.connection_turn] at hresponses
        exact hresponses

/-! ## The events -/

namespace History

variable {h : History} {d : Docket} {n : Nat} {k : Case}

/-- What was to be queued on account of a request was queued on its connection. -/
theorem queuedFor_eq (hm : Mirrors h d) (hk : d.cases[n]? = some k)
    (hqueued : ∀ s ∈ h.sent, s.cause = n → s.isQueued = true) : h.queuedFor n = k.messages := by
  have hsent : h.sentFor n = k.messages.map fun m => (k.connection, m) := by
    rw [hm.sent, hk]
    rfl
  have hsame : h.sent.filter (fun s => s.cause = n && s.isQueued) =
      h.sent.filter fun s => s.cause = n := by
    refine List.filter_congr ?_
    intro s hs
    by_cases hcause : s.cause = n
    · simp [hcause, hqueued s hs hcause]
    · simp [hcause]
  have hmessages := congrArg (List.map Prod.snd) hsent
  simp only [sentFor, List.map_map] at hmessages
  rw [queuedFor, hsame]
  refine hmessages.trans ?_
  exact List.map_id _

/-- What was to be queued on account of a request was to be queued on its connection, and is what its
case says. -/
theorem of_mem_sent (hm : Mirrors h d) (hk : d.cases[n]? = some k) :
    ∀ s ∈ h.sent, s.cause = n → s.connection = k.connection ∧ s.message ∈ k.messages := by
  intro s hs hcause
  have hmem : (s.connection, s.message) ∈ h.sentFor n :=
    List.mem_map.mpr ⟨s, List.mem_filter.mpr ⟨hs, decide_eq_true hcause⟩, rfl⟩
  rw [hm.sent, hk] at hmem
  obtain ⟨m, hmessage, hsame⟩ := List.mem_map.mp hmem
  obtain ⟨hconnection, rfl⟩ := Prod.mk.inj hsame
  exact ⟨hconnection.symm, hmessage⟩

/-- The connection of a request has taken what was queued on account of it, in that order. -/
theorem sublist_queuedOn (hm : Mirrors h d) (hf : h.Faithful) (hk : d.cases[n]? = some k) :
    (h.queuedFor n).Sublist (h.queuedOn k.connection) := by
  have hconnection : ∀ s ∈ h.sent, s.cause = n → s.connection = k.connection :=
    fun s hs hcause => (of_mem_sent hm hk s hs hcause).1
  have hboth : h.sent.filter (fun s => s.cause = n && s.isQueued) =
      (h.sent.filter fun s => s.connection = k.connection && s.isQueued).filter
        fun s => s.cause = n := by
    rw [List.filter_filter]
    refine List.filter_congr ?_
    intro s hs
    by_cases hcause : s.cause = n
    · simp [hcause, hconnection s hs hcause]
    · simp [hcause]
  rw [← hf, queuedFor, loggedOn, hboth]
  exact List.filter_sublist.map Sending.message

end History

/-- The events of a request of which none is held up. -/
theorem Case.messages_of_released {k : Case} (h : k.stage = .released) :
    k.messages = .response k.response :: (k.events.map k.addressed).map .event := by
  rw [messages, h, List.map_map]
  rfl

theorem Case.messages_of_ne_released {k : Case} (h : k.stage ≠ .released) :
    k.messages = if k.isAnswered then [.response k.response] else [] := by
  unfold messages isAnswered
  cases hstage : k.stage with
  | released => exact absurd hstage h
  | _ => rfl

/-- When the handler has ended, its response has been queued and what was held up has been let go, that
has happened to every event. -/
theorem Case.messages_turns (k : Case) {channel : ChannelId} {handler : Handler}
    (h : k.ruling = .handled channel handler) (outcome : Option Response) :
    (((k.turn (.finish outcome)).turn .answer).turn .release).messages =
      .response (k.turn (.finish outcome)).response :: (k.events.map k.addressed).map .event := by
  rcases k with ⟨connection, request, ruling, stage, given, events⟩
  cases h
  rw [List.map_map]
  cases stage <;> rfl

/-- What has been queued for a request that a handler answers is its response, once it is answered, and
behind it events that were reported on it, in the order of the reports.  The reported events that have
not been queued are those at the gate, in that order.  The gate is open if what was held up has been let
go, and only then, and until then it holds every event; from then on it holds none.  Whatever the handler
comes to, after it has ended the response is queued, and then what was held up is let go. -/
theorem events_follow_response (ops : List Op) {n : Nat} {k : Case} {channel : ChannelId}
    {handler : Handler} (hk : (Docket.run {} ops).cases[n]? = some k)
    (hruling : k.ruling = .handled channel handler)
    (hqueued : ∀ s ∈ (History.run {} ops).sent, s.cause = n → s.isQueued = true) :
    (∃ w queued, (History.run {} ops).calls.get? n = some w ∧ w.stage = k.stage ∧
      queued ++ w.call.gate.held = k.events.map k.addressed ∧
      (History.run {} ops).queuedFor n =
        (if k.isAnswered then [.response k.response] else []) ++ queued.map .event ∧
      (w.call.gate.isOpen = true ↔ k.stage = .released) ∧
      (if k.stage = .released then w.call.gate.held = [] else queued = []) ∧
      ((History.run {} ops).queuedFor n).Sublist ((History.run {} ops).queuedOn k.connection)) ∧
    ∀ outcome,
      ((History.run {} ops).run [.turn n (.finish outcome), .turn n .answer, .turn n .release]).sentFor
          n =
        (.response (k.turn (.finish outcome)).response ::
          (k.events.map k.addressed).map Message.event).map fun m => (k.connection, m) := by
  have hm : Mirrors (History.run {} ops) (Docket.run {} ops) := mirrors_start.run ops
  have hf : (History.run {} ops).Faithful := History.faithful_start.run ops
  have hcall : (History.run {} ops).calls.get? n = k.work? := by
    rw [hm.calls, hk, Option.bind_some]
  have hsublist := History.sublist_queuedOn hm hf hk
  constructor
  · rw [History.queuedFor_eq hm hk hqueued] at hsublist ⊢
    rw [hcall, Case.work?, hruling]
    by_cases hreleased : k.stage = .released
    · have hanswered : k.isAnswered = true := by simp [Case.isAnswered, hreleased]
      have hheld : k.held = [] := if_pos hreleased
      refine ⟨_, k.events.map k.addressed, rfl, rfl, ?_, ?_, decide_eq_true_iff, ?_, hsublist⟩
      · simp only [hheld, List.append_nil]
      · rw [hanswered, k.messages_of_released hreleased]
        rfl
      · rw [if_pos hreleased]
        exact hheld
    · have hheld : k.held = k.events.map k.addressed := if_neg hreleased
      refine ⟨_, [], rfl, rfl, hheld, ?_, decide_eq_true_iff, ?_, hsublist⟩
      · rw [k.messages_of_ne_released hreleased, List.map_nil, List.append_nil]
      · rw [if_neg hreleased]
  · intro outcome
    have hturned : ((Docket.run {} ops).run
        [.turn n (.finish outcome), .turn n .answer, .turn n .release]).cases[n]? =
          some (((k.turn (.finish outcome)).turn .answer).turn .release) := by
      simp only [Docket.run, List.foldl_cons, List.foldl_nil, Mirrors.getElem?_turn, if_true]
      rw [show (List.foldl Docket.step {} ops).cases[n]? = some k from hk]
      rfl
    rw [(hm.run _).sent, hturned, Option.map_some, Option.getD_some, k.messages_turns hruling outcome]
    simp only [Case.connection_turn]

/-! A request to speak, on which an event is reported before the handler breaks down, before its answer
is queued, before what was held up is let go, and afterwards. -/

/-- The channel of the request. -/
def spokenChannel : ChannelId := ⟨"spoken", .speechSynth, by decide⟩

/-- The request. -/
def spokenRequest : Request := .new .speak spokenChannel

/-- The event that is reported. -/
def spokenMarker (id : Nat) : Event := .new .speechMarker id .inProgress spokenChannel

/-- All of that. -/
def spokenOps : List Op :=
  [.openChannel spokenChannel (Demo.handlers .speechSynth), .connect "peer" 1000,
    .receive 0 (.request spokenRequest), .turn 0 (.report (spokenMarker 1)), .turn 0 (.finish none),
    .turn 0 (.report (spokenMarker 2)), .turn 0 .answer, .turn 0 (.report (spokenMarker 3)),
    .turn 0 .release, .turn 0 (.report (spokenMarker 4))]

/-- The case of the request then. -/
def spokenCase : Case :=
  { connection := 0, request := spokenRequest
    ruling := .handled spokenChannel (Demo.handler .speak)
    stage := .released
    events := [spokenMarker 1, spokenMarker 2, spokenMarker 3, spokenMarker 4] }

/-- The answer of that request is in front of its events, of which none is held up any more. -/
theorem events_follow_response_spoken :
    ((Docket.run {} spokenOps).cases[0]? = some spokenCase ∧
      spokenCase.ruling = .handled spokenChannel (Demo.handler .speak) ∧
      ∀ s ∈ (History.run {} spokenOps).sent, s.cause = 0 → s.isQueued = true) ∧
    (∃ w, (History.run {} spokenOps).calls.get? 0 = some w ∧ w.stage = .released ∧
      w.call.gate.isOpen = true ∧ w.call.gate.held = [] ∧
      (History.run {} spokenOps).queuedFor 0 = .response spokenCase.response ::
        (spokenCase.events.map spokenCase.addressed).map Message.event) ∧
    ∀ outcome,
      ((History.run {} spokenOps).run
          [.turn 0 (.finish outcome), .turn 0 .answer, .turn 0 .release]).sentFor 0 =
        (.response (spokenCase.turn (.finish outcome)).response ::
          (spokenCase.events.map spokenCase.addressed).map Message.event).map fun m => (0, m) := by
  have hk : (Docket.run {} spokenOps).cases[0]? = some spokenCase := by rfl
  have hall : (History.run {} spokenOps).sent.all Sending.isQueued = true := by rfl
  have hqueued : ∀ s ∈ (History.run {} spokenOps).sent, s.cause = 0 → s.isQueued = true :=
    fun s hs _ => List.all_eq_true.mp hall s hs
  obtain ⟨⟨w, queued, hw, hstage, hevents, hmessages, hopen, hheld, -⟩, hturns⟩ :=
    events_follow_response spokenOps hk rfl hqueued
  have hreleased : spokenCase.stage = .released := rfl
  rw [if_pos hreleased] at hheld
  rw [hheld, List.append_nil] at hevents
  rw [hevents] at hmessages
  exact ⟨⟨hk, rfl, hqueued⟩, ⟨w, hw, hstage, hopen.mpr rfl, hheld, hmessages⟩, hturns⟩

end MediaControl.Server
