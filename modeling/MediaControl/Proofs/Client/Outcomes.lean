import MediaControl.Proofs.Client.History
import MediaControl.Proofs.Client.Reading
import MediaControl.Proofs.Simulation.Sessions

/-!
# What a wait for an answer tells (SPEC_FULL §4.7)

A wait on a network is a reading from the slot of a request, in which other things happen to the
session while time passes.  So a wait for the completion of a request tells how the request ended, and
a wait for the response tells the response, or the failure that came instead.

Main statements: `awaited_awaitAnswer`, `waited_completionFrom` and `waited_awaitAnswer` (waits are
readings), `completionComes` and `responseComes` (when a wait ends), and `completion_tells_outcome`.
-/

set_option autoImplicit false

namespace MediaControl

open Correlator (IsLegal Issue Ledger Settled waiting)

/-! ## Waits -/

/-- What the connection of a session brings to its correlator. -/
theorem Session.Brought.exists_ops {s s' : Session} (h : s.Brought s') {l : Ledger}
    (hl : s.correlator = l.correlator) (slot : Nat) :
    ∃ ops : List Correlator.Op, (∀ op ∈ ops, op.spares slot) ∧
      s'.correlator = (l.run ops).correlator := by
  induction h with
  | nothing =>
      refine ⟨[], ?_, hl⟩
      intro op hmem
      cases hmem
  | connection h connection ih => exact ih
  | @message s' h m ih =>
      obtain ⟨ops, hops, hsame⟩ := ih
      rcases (s'.receive_cases m).2 with hkept | hhandled
      · exact ⟨ops, hops, hkept.trans hsame⟩
      · refine ⟨ops ++ [.handle m], ?_, ?_⟩
        · intro op hmem
          rcases List.mem_append.mp hmem with hmem | hmem
          · exact hops op hmem
          · rw [List.mem_singleton.mp hmem]
            trivial
        · rw [hhandled, hsame, Ledger.run_append]
          rfl
  | @stop s' h reason ih =>
      obtain ⟨ops, hops, hsame⟩ := ih
      refine ⟨ops ++ s'.table.keys.map fun channel => .failChannel channel reason, ?_, ?_⟩
      · intro op hmem
        rcases List.mem_append.mp hmem with hmem | hmem
        · exact hops op hmem
        · obtain ⟨channel, -, rfl⟩ := List.mem_map.mp hmem
          trivial
      · have hstop := Session.History.ledger_session_stop s' reason (l.run ops).issued (l.run ops).gone
        rw [hsame] at hstop
        rw [Ledger.run_append]
        exact congrArg Ledger.correlator hstop

/-- The session of the network has the correlator of the ledger. -/
def Network.Holds (l : Ledger) (n : Network) : Prop :=
  ∃ s, n.session? = some s ∧ s.correlator = l.correlator

namespace TimedNetwork

variable {β : Type} {l : Ledger} {t : TimedNetwork} {p : Pending}

/-- The next answer to a request, if it has come. -/
def answer? (p : Pending) (s : Session) : Option (Except Error Message × Session) :=
  (s.correlator.take? p.slot).map fun (item, correlator) => (item, { s with correlator })

theorem awaitAnswer_eq (hlimit : p.limit? = none) (last : Nat) (t : TimedNetwork) :
    awaitAnswer p last t =
      Timed.await perform (fromSession (answer? p)) (last - t.agenda.now) t := by
  simp only [awaitAnswer, awaitItem, hlimit]
  rfl

/-- What a wait for the next answer comes to: other things happen, and perhaps it is taken. -/
inductive Awaited (l : Ledger) (slot : Nat) : Option (Except Error Message) × TimedNetwork → Prop
  | had {ops : List Correlator.Op} {item : Except Error Message} {c : Correlator} {t : TimedNetwork}
      (hops : ∀ op ∈ ops, op.spares slot)
      (htake : (l.run ops).correlator.take? slot = some (item, c))
      (hholds : Network.Holds ((l.run ops).step (.take slot)) t.state) :
      Awaited l slot (some item, t)
  | vain {ops : List Correlator.Op} {t : TimedNetwork} (hops : ∀ op ∈ ops, op.spares slot)
      (hholds : Network.Holds (l.run ops) t.state) : Awaited l slot (none, t)

theorem awaited_awaitAnswer (hlimit : p.limit? = none) (hholds : Network.Holds l t.state)
    (last : Nat) : Awaited l p.slot (awaitAnswer p last t) := by
  obtain ⟨s, hsession, hcorrelator⟩ := hholds
  have hends : Timed.Ends (Network.Hosts s) (fromSession (answer? p))
      (Timed.await perform (fromSession (answer? p)) (last - t.agenda.now) t) :=
    Timed.ends_await hosts_perform _ ⟨s, hsession, .nothing⟩
  rw [awaitAnswer_eq hlimit]
  generalize Timed.await perform (fromSession (answer? p)) (last - t.agenda.now) t = result at hends
  cases hends with
  | @had n n' item agenda hosts htake =>
      obtain ⟨s', hs', hbrought⟩ := hosts
      obtain ⟨ops, hops, hsame⟩ := hbrought.exists_ops hcorrelator p.slot
      simp only [fromSession, hs', answer?, hsame] at htake
      cases htaken : (l.run ops).correlator.take? p.slot with
      | none =>
          rw [htaken] at htake
          cases htake
      | some taken =>
          rw [htaken] at htake
          cases htake
          exact .had hops htaken ⟨_, rfl, by rw [Ledger.step_take htaken]⟩
  | @vain t' hosts =>
      obtain ⟨s', hs', hbrought⟩ := hosts
      obtain ⟨ops, hops, hsame⟩ := hbrought.exists_ops hcorrelator p.slot
      exact .vain hops ⟨s', hs', hsame⟩

/-- A wait told what a reading from the slot tells, and left what the reading leaves. -/
def Waited (judge : Except Error Message → Option β) (l : Ledger) (slot : Nat)
    (result : Option β × TimedNetwork) : Prop :=
  ∃ d : Reading β, Reading.Reaches judge slot ⟨l, none⟩ d ∧ d.told = result.1 ∧
    Network.Holds d.ledger result.2.state

theorem waited_completionFrom (hlimit : p.limit? = none) (hholds : Network.Holds l t.state)
    (last fuel : Nat) :
    Waited Pending.completionOf l p.slot (completionFrom p last fuel t) := by
  induction fuel generalizing l t with
  | zero => exact ⟨⟨l, none⟩, .refl, rfl, hholds⟩
  | succ fuel ih =>
      have hawaited := awaited_awaitAnswer hlimit hholds last
      rw [completionFrom]
      generalize awaitAnswer p last t = result at hawaited
      cases hawaited with
      | @vain ops t' hops hholds' => exact ⟨_, Reading.reaches_run ops hops _, rfl, hholds'⟩
      | @had ops item c t' hops htake hholds' =>
          have hread : Reading.Reaches Pending.completionOf p.slot ⟨l, none⟩
              ⟨(l.run ops).step (.take p.slot), Pending.completionOf item⟩ :=
            (Reading.reaches_run ops hops ⟨l, none⟩).tail (.read _ htake)
          simp only
          cases htold : Pending.completionOf item with
          | some result =>
              rw [htold] at hread
              exact ⟨_, hread, rfl, hholds'⟩
          | none =>
              rw [htold] at hread
              obtain ⟨d, hreaches, htells, hleft⟩ := ih hholds'
              exact ⟨d, hread.trans hreaches, htells, hleft⟩

/-- What a wait for the response tells is the first item. -/
theorem waited_awaitAnswer (hlimit : p.limit? = none) (hholds : Network.Holds l t.state)
    (last : Nat) :
    Waited (fun item => some (Pending.responseOf item)) l p.slot
      ((awaitAnswer p last t).1.map Pending.responseOf, (awaitAnswer p last t).2) := by
  have hawaited := awaited_awaitAnswer hlimit hholds last
  generalize awaitAnswer p last t = result at hawaited
  cases hawaited with
  | @vain ops t' hops hholds' => exact ⟨_, Reading.reaches_run ops hops _, rfl, hholds'⟩
  | @had ops item c t' hops htake hholds' =>
      exact ⟨_, (Reading.reaches_run ops hops ⟨l, none⟩).tail (.read _ htake), rfl, hholds'⟩

/-! ## Answers that have come -/

/-- An answer that has come is taken at once. -/
theorem awaitAnswer_of_take {item : Except Error Message} {c : Correlator} (hlimit : p.limit? = none)
    (hholds : Network.Holds l t.state) (htake : l.correlator.take? p.slot = some (item, c))
    (last : Nat) :
    ∃ t', awaitAnswer p last t = (some item, t') ∧
      Network.Holds (l.step (.take p.slot)) t'.state := by
  obtain ⟨s, hsession, hcorrelator⟩ := hholds
  have htaken : fromSession (answer? p) t.state =
      some (item, { t.state with session? := some { s with correlator := c } }) := by
    simp only [fromSession, hsession, answer?, hcorrelator, htake]
    rfl
  rw [awaitAnswer_eq hlimit, Timed.await_of_take htaken]
  exact ⟨_, rfl, _, rfl, by rw [Ledger.step_take htake]⟩

/-- Whoever waits for an answer without a limit of their own gives up only in vain. -/
theorem inVain_of_awaitAnswer_eq_none (hlimit : p.limit? = none) (last : Nat)
    (hnone : (awaitAnswer p last t).1 = none) :
    Timed.InVain perform (fromSession (answer? p)) last (awaitAnswer p last t).2 := by
  rw [awaitAnswer_eq hlimit] at hnone ⊢
  exact Timed.inVain_of_await_eq_none (by omega) hnone

/-! ## Waits that end -/

section

variable {i : Issue} (hs : Reading.Sound i Pending.Tells ⟨l, none⟩) (hslot : p.slot = i.slot)
  (hlimit : p.limit? = none) (hholds : Network.Holds l t.state)

include hs hslot hlimit hholds

/-- Whoever waits for the completion of a request gives up only in vain: two items are enough. -/
theorem inVain_of_completionFrom_eq_none (last : Nat) {fuel : Nat}
    (hfuel : 2 ≤ (l.gone i.slot).length + fuel) (hnone : (completionFrom p last fuel t).1 = none) :
    Timed.InVain perform (fromSession (answer? p)) last (completionFrom p last fuel t).2 := by
  induction fuel generalizing l t with
  | zero =>
      have hlength := Pending.Unfinished.length_le hs.lawful
      simp only at hlength
      omega
  | succ fuel ih =>
      have hvain := inVain_of_awaitAnswer_eq_none (t := t) hlimit last
      have hawaited := awaited_awaitAnswer hlimit hholds last
      rw [completionFrom] at hnone ⊢
      generalize awaitAnswer p last t = result at hvain hawaited hnone ⊢
      cases hawaited with
      | vain hops hholds' => exact hvain rfl
      | @had ops item c t' hops htake hholds' =>
          have hread : Reading.Reaches Pending.completionOf i.slot ⟨l, none⟩
              ⟨(l.run ops).step (.take i.slot), Pending.completionOf item⟩ := by
            rw [← hslot]
            exact (Reading.reaches_run ops hops ⟨l, none⟩).tail (.read _ htake)
          have hnext := hs.reaches_completion hread
          simp only at hnone ⊢
          cases htold : Pending.completionOf item with
          | some result =>
              rw [htold] at hnone
              cases hnone
          | none =>
              rw [htold] at hnone hnext
              -- one more item has gone, and one less may be taken
              have hgone := Ledger.gone_take (hslot ▸ htake)
              rw [hslot] at hholds'
              refine ih hnext hholds' ?_ hnone
              rw [hgone, List.length_append, List.length_singleton, Ledger.gone_run _ (hslot ▸ hops)]
              omega

/-- When all that comes for a request has come, whoever waits for its completion is told. -/
theorem isSome_completionFrom {items : List (Except Error Message)}
    (hline : l.correlator.slots.get? i.slot = some ⟨items⟩) (hsettled : Settled (l.received i.slot))
    (last : Nat) {fuel : Nat} (hfuel : items.length ≤ fuel) :
    (completionFrom p last fuel t).1.isSome = true := by
  have hreceived : l.received i.slot = l.gone i.slot ++ items := by
    rw [Ledger.received, waiting, hline]
    rfl
  -- a take shortens the line, and leaves all that has come for the request as it is
  induction items generalizing l t fuel with
  | nil =>
      rw [hreceived, List.append_nil] at hsettled
      exact absurd hsettled (Pending.Unfinished.not_settled hs.lawful)
  | cons item rest ih =>
      cases fuel with
      | zero => cases hfuel
      | succ fuel =>
          have htake : l.correlator.take? i.slot = some (item,
              { l.correlator with slots := l.correlator.slots.insert i.slot ⟨rest⟩ }) := by
            rw [Correlator.take?, hline]
            rfl
          have hnext := hs.reaches_completion (.single (.read l htake))
          obtain ⟨t', hawait, hholds'⟩ := awaitAnswer_of_take hlimit hholds (hslot ▸ htake) last
          rw [completionFrom, hawait]
          simp only
          cases htold : Pending.completionOf item with
          | some result => rfl
          | none =>
              rw [htold] at hnext
              have hsame := l.received_take i.slot i.slot
              rw [hslot] at hholds'
              refine ih hnext hholds' ?_ ?_ (Nat.le_of_succ_le_succ hfuel) ?_
              · rw [Ledger.step_take htake, Table.get?_insert, if_pos rfl]
              · rw [hsame]
                exact hsettled
              · rw [hsame, hreceived, Ledger.gone_take htake, List.append_assoc]
                rfl

/-- So a wait of any length ends. -/
theorem isSome_completion_of_settled (hheld : l.correlator.slots.contains i.slot = true)
    (hsettled : Settled (l.received i.slot)) (last : Nat) :
    (completionFrom p last Timed.patience t).1.isSome = true := by
  obtain ⟨⟨items⟩, hline⟩ := Option.isSome_iff_exists.mp hheld
  have hlength := hsettled.length_le
  rw [Ledger.received, waiting, hline, List.length_append] at hlength
  have hfuel : items.length ≤ Timed.patience :=
    Nat.le_trans (Nat.le_trans (Nat.le_add_left ..) hlength) (by decide)
  exact isSome_completionFrom hs hslot hlimit hholds hline hsettled last hfuel

end

/-- Whoever waits for the completion of a request on a network that holds the ledger is told it, if all
has come that comes for the request, and gives up otherwise only when the time has passed with no answer
in the slot, or when as many things have happened as anybody waits for. -/
def CompletionComes (l : Ledger) (slot : Nat) : Prop :=
  ∀ (p : Pending) (t : TimedNetwork), p.slot = slot → Network.Holds l t.state →
    (l.correlator.slots.contains slot = true → Settled (l.received slot) →
      (p.limit? = none → (t.completion p).1.isSome = true) ∧
        (t.completionNow p).1.isSome = true) ∧
    (p.limit? = none → (t.completion p).1 = none →
      Timed.InVain perform (fromSession (answer? p)) (t.agenda.now + patience) (t.completion p).2)

/-- Whoever waits for the response to a request on a network that holds the ledger is told what the
oldest item in the slot makes, if there is one, and gives up otherwise only when the time has passed with
no answer in the slot, or when as many things have happened as anybody waits for. -/
def ResponseComes (l : Ledger) (slot : Nat) : Prop :=
  ∀ (p : Pending) (t : TimedNetwork), p.slot = slot → Network.Holds l t.state →
    (∀ item c, l.correlator.take? slot = some (item, c) →
      (p.limit? = none → (t.response p).1 = some (Pending.responseOf item)) ∧
        (t.responseNow p).1 = some (Pending.responseOf item)) ∧
    (p.limit? = none → (t.response p).1 = none →
      Timed.InVain perform (fromSession (answer? p)) (t.agenda.now + patience) (t.response p).2)

theorem completionComes {i : Issue} (hs : Reading.Sound i Pending.Tells ⟨l, none⟩) :
    CompletionComes l i.slot := by
  intro p t hslot hholds
  constructor
  · intro hheld hsettled
    constructor
    · intro hlimit
      exact isSome_completion_of_settled hs hslot hlimit hholds hheld hsettled _
    · exact isSome_completion_of_settled (p := { p with limit? := none }) hs hslot rfl hholds hheld
        hsettled _
  · intro hlimit hnone
    refine inVain_of_completionFrom_eq_none hs hslot hlimit hholds _ ?_ hnone
    exact Nat.le_trans (by decide) (Nat.le_add_left ..)

theorem responseComes (l : Ledger) (slot : Nat) : ResponseComes l slot := by
  rintro p t rfl hholds
  constructor
  · intro item c htake
    constructor
    · intro hlimit
      obtain ⟨t', hawait, -⟩ := awaitAnswer_of_take hlimit hholds htake (t.agenda.now + patience)
      rw [response, hawait]
      rfl
    · obtain ⟨t', hawait, -⟩ :=
        awaitAnswer_of_take (p := { p with limit? := none }) rfl hholds htake t.agenda.now
      rw [responseNow, hawait]
      rfl
  · intro hlimit hnone
    exact inVain_of_awaitAnswer_eq_none hlimit _ (Option.map_eq_none_iff.mp hnone)

end TimedNetwork

/-! ## Over every run -/

namespace Pending

open TimedNetwork (Waited)

/-- Over every run of a correlator, and whatever happens on it from then on, whoever waits for the
completion of a request from whose slot nothing has been taken takes two items at most, from the front
of what comes, and is told by them how the request ended.  Whoever waits for the response instead is
told the first item, which is the response or the failure; and behind a success that does not complete
the request, a wait for the completion tells the event that does, or the failure.

The waits on a network are such readings of what its session holds, and they end.  A wait for the
response tells the first item where there is one, and one for the completion tells how the request ended
where all has come that comes for it, before and behind a response that was read; and none gives up
before its time, or with an answer there. -/
theorem completion_tells_outcome (ops : List Correlator.Op) {i : Issue}
    (hi : i ∈ (Ledger.run {} ops).issued) (hunread : (Ledger.run {} ops).gone i.slot = []) :
    let l := Ledger.run {} ops
    let first := fun item => some (responseOf item)
    (∀ d, Reading.Reaches completionOf i.slot ⟨l, none⟩ d →
      d.ledger.gone i.slot <+: d.ledger.received i.slot ∧ (d.ledger.gone i.slot).length ≤ 2 ∧
        Tells (d.ledger.gone i.slot) d.told) ∧
    (∀ d, Reading.Reaches first i.slot ⟨l, none⟩ d →
      TellsFirst (d.ledger.gone i.slot) d.told ∧
      ∀ r, d.told = some (.ok r) → r.status.isSuccess = true → r.state ≠ .complete →
        (∀ d' result, Reading.Reaches completionOf i.slot ⟨d.ledger, none⟩ d' →
          d'.told = some result → OutcomeAfter r (d'.ledger.gone i.slot) result) ∧
        TimedNetwork.CompletionComes d.ledger i.slot) ∧
    (∀ (held : Ledger) (p : Pending) (t : TimedNetwork), Network.Holds held t.state →
      (p.limit? = none → Waited completionOf held p.slot (t.completion p) ∧
        Waited first held p.slot (t.response p)) ∧
      Waited completionOf held p.slot (t.completionNow p) ∧
        Waited first held p.slot (t.responseNow p)) ∧
    TimedNetwork.CompletionComes l i.slot ∧ TimedNetwork.ResponseComes l i.slot ∧
    ∀ r reason, (Error.ofCause (.failedRequest r)).kind = .invocation ∧
      (Error.closing reason).kind = .connectionClosed := by
  intro l first
  have hs : l.Sound := Ledger.sound_empty.run ops
  have hstart : Reading.Sound i Tells ⟨l, none⟩ := ⟨hs, hi, hunread ▸ .unread⟩
  refine ⟨?_, ?_, ?_, TimedNetwork.completionComes hstart, TimedNetwork.responseComes l i.slot,
    fun _ _ => ⟨rfl, rfl⟩⟩
  · intro d hreaches
    have hend := hstart.reaches_completion hreaches
    exact ⟨List.prefix_append _ _, hend.lawful.length_le, hend.lawful⟩
  · intro d hreaches
    have hfirst : Reading.Sound i TellsFirst ⟨l, none⟩ := ⟨hs, hi, hunread ▸ .unread⟩
    have hend := hfirst.reaches_response hreaches
    refine ⟨hend.lawful, ?_⟩
    intro r htold hr hstate
    refine ⟨?_, TimedNetwork.completionComes (hend.begun htold hr hstate)⟩
    intro d' result hreaches' htold'
    exact hend.outcomeAfter htold hr hstate hreaches' htold'
  · intro held p t hholds
    refine ⟨fun hlimit => ⟨?_, ?_⟩, ?_, ?_⟩
    · exact TimedNetwork.waited_completionFrom hlimit hholds _ _
    · exact TimedNetwork.waited_awaitAnswer hlimit hholds _
    · exact TimedNetwork.waited_completionFrom (p := { p with limit? := none }) rfl hholds _ _
    · exact TimedNetwork.waited_awaitAnswer (p := { p with limit? := none }) rfl hholds _

/-- The channel of a request. -/
def begunChannel : ChannelId := ⟨"b", .speechSynth, (by decide : ¬ Text.trim "b" = "")⟩

/-- The response that says that the request is under way. -/
def begunResponse : Response := .new 1 .success .inProgress begunChannel

/-- The event that completes the request. -/
def begunEvent : Event := .new .speakComplete 1 .complete begunChannel

/-- A request is sent, and both come for it. -/
def begunOps : List Correlator.Op :=
  [.register "b" 1, .handle (.response begunResponse), .handle (.event begunEvent)]

/-- The session that holds what has come. -/
def begunSession : Session :=
  { connection := { id := 0, peer := "server" }, correlator := (Ledger.run {} begunOps).correlator }

/-- A network with the session. -/
def begunNetwork : TimedNetwork := { state := { session? := some begunSession } }

/-- Whoever waits for the completion takes both items and is told the event.  Whoever waits for the
response first is told that, and of the event when they wait for the completion. -/
theorem completion_tells_outcome_begun :
    let l := Ledger.run {} begunOps
    let p : Pending := { id := 1, slot := 0 }
    (l.issued = [⟨0, "b", 1⟩] ∧ l.gone 0 = []) ∧
      (begunNetwork.completion p).1 = some (.ok (.event begunEvent)) ∧
      (begunNetwork.response p).1 = some (.ok begunResponse) ∧
      ((begunNetwork.response p).2.completion p).1 = some (.ok (.event begunEvent)) ∧
      Waited completionOf l 0 (begunNetwork.completion p) ∧
      TimedNetwork.CompletionComes l 0 ∧
      ∀ d, Reading.Reaches completionOf 0 ⟨l, none⟩ d → Tells (d.ledger.gone 0) d.told := by
  intro l p
  have hissued : l.issued = [⟨0, "b", 1⟩] := by rfl
  have hi : (⟨0, "b", 1⟩ : Issue) ∈ l.issued := by
    rw [hissued]
    exact List.mem_cons_self ..
  have hunread : l.gone 0 = [] := by rfl
  have hholds : Network.Holds l begunNetwork.state := ⟨_, rfl, rfl⟩
  obtain ⟨c, htake⟩ : ∃ c, l.correlator.take? 0 = some (.ok (.response begunResponse), c) := ⟨_, rfl⟩
  obtain ⟨hreadings, -, hwaits, hcompletion, hresponse, -⟩ :=
    completion_tells_outcome begunOps hi hunread
  refine ⟨⟨hissued, hunread⟩, by rfl, ?_, by rfl, ((hwaits l p _ hholds).1 rfl).1, hcompletion, ?_⟩
  · exact ((hresponse p begunNetwork rfl hholds).1 _ c htake).1 rfl
  · intro d hreaches
    exact (hreadings d hreaches).2.2

end Pending

end MediaControl
