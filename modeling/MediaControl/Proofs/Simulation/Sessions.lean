import MediaControl.Proofs.Wire.Taking
import MediaControl.Simulation.Waiting

/-!
# A session while time passes

Whoever waits lets other things happen first, and what all of them keep is kept by the wait.  To the
session of a network there happens nothing but what its connection brings: the connection changes,
messages come in on it, and it stops.

Main statements: `Timed.ends_await` (what tasks keep, a wait keeps), `Timed.await_of_take` (a wait for
what is there), `Timed.inVain_of_await_eq_none` (when a wait gives up) and `hosts_perform` (what tasks do
to a session).
-/

set_option autoImplicit false

namespace MediaControl

/-! ## Waiting -/

namespace Timed

variable {σ τ β : Type} {perform : τ → Timed σ τ → Timed σ τ} {take : σ → Option (β × σ)}
  {P : σ → Prop}

/-- How a wait ends: something was had from a state of the kind, or nothing was, and the state is of
the kind still. -/
inductive Ends (P : σ → Prop) (take : σ → Option (β × σ)) : Option β × Timed σ τ → Prop
  | had {s s' : σ} {b : β} {agenda : Agenda τ} (hs : P s) (htake : take s = some (b, s')) :
      Ends P take (some b, ⟨s', agenda⟩)
  | vain {t : Timed σ τ} (hs : P t.state) : Ends P take (none, t)

theorem ends_awaitFrom (hperform : ∀ task t, P t.state → P (perform task t).state) (limit fuel : Nat)
    {t : Timed σ τ} (h : P t.state) : Ends P take (awaitFrom perform take limit fuel t) := by
  induction fuel generalizing t with
  | zero => exact .vain h
  | succ fuel ih =>
      rw [awaitFrom]
      split
      · rename_i b s htake
        split at htake
        · exact .had h htake
        · cases htake
      · split
        · exact ih (hperform _ _ h)
        · exact .vain h

/-- Whatever kind of state tasks keep, a wait keeps. -/
theorem ends_await (hperform : ∀ task t, P t.state → P (perform task t).state) (delay : Nat)
    {t : Timed σ τ} (h : P t.state) : Ends P take (await perform take delay t) := by
  rw [await]
  split
  · rename_i b s htake
    exact .had h htake
  · exact ends_awaitFrom hperform _ _ h

/-- So many tasks were done, one after the other, each of them due before the limit. -/
inductive Did (perform : τ → Timed σ τ → Timed σ τ) (limit : Nat) :
    Nat → Timed σ τ → Timed σ τ → Prop
  | nothing (t : Timed σ τ) : Did perform limit 0 t t
  | task {n : Nat} {t t' : Timed σ τ} {task : τ} {agenda : Agenda τ}
      (hnext : t.agenda.next? limit = some (task, agenda))
      (hrest : Did perform limit n (perform task { t with agenda }) t') :
      Did perform limit (n + 1) t t'

/-- A wait up to the moment was in vain: the moment has come, and nothing is there to be had once all
that is due then is done; or as many tasks were done as any wait does. -/
def InVain (perform : τ → Timed σ τ → Timed σ τ) (take : σ → Option (β × σ)) (last : Nat)
    (t : Timed σ τ) : Prop :=
  last ≤ t.agenda.now ∧ (t.agenda.isIdle = true → take t.state = none) ∨
    ∃ t₀ limit, last ≤ limit ∧ Did perform limit patience t₀ t

/-- What is not due at a later moment is not due before it. -/
theorem isIdle_of_later {a : Agenda τ} {now : Nat} (hlater : a.now ≤ now)
    (h : ({ a with now } : Agenda τ).isIdle = true) : a.isIdle = true := by
  unfold Agenda.isIdle Agenda.next? at h ⊢
  cases hentries : a.entries with
  | nil => rfl
  | cons entry rest =>
      obtain ⟨due, task⟩ := entry
      simp only [hentries] at h ⊢
      by_cases hdue : due < now + 1
      · rw [if_pos hdue] at h
        cases h
      · rw [if_neg fun hsooner => hdue (Nat.lt_of_lt_of_le hsooner (Nat.succ_le_succ hlater))]
        rfl

theorem did_of_awaitFrom_eq_none (limit fuel : Nat) {t : Timed σ τ}
    (h : (awaitFrom perform take limit fuel t).1 = none) :
    let t' := (awaitFrom perform take limit fuel t).2
    limit ≤ t'.agenda.now ∧ (t'.agenda.isIdle = true → take t'.state = none) ∨
      Did perform limit fuel t t' := by
  induction fuel generalizing t with
  | zero => exact .inr (.nothing t)
  | succ fuel ih =>
      rw [awaitFrom] at h ⊢
      split at h
      · cases h
      · rename_i hnone
        simp only
        split at h
        · rename_i task agenda hnext
          exact (ih h).imp_right (.task hnext)
        · refine .inl ⟨Nat.le_max_right .., ?_⟩
          intro hidle
          rw [if_pos (isIdle_of_later (Nat.le_max_left ..) hidle)] at hnone
          exact hnone

/-- Whoever waits gives up only in vain. -/
theorem inVain_of_await_eq_none {delay last : Nat} {t : Timed σ τ}
    (hlast : last ≤ t.agenda.now + delay) (h : (await perform take delay t).1 = none) :
    InVain perform take last (await perform take delay t).2 := by
  rw [await] at h ⊢
  split at h
  · cases h
  · rcases did_of_awaitFrom_eq_none _ _ h with ⟨hlate, hnothing⟩ | hdid
    · exact .inl ⟨Nat.le_trans hlast hlate, hnothing⟩
    · exact .inr ⟨t, _, hlast, hdid⟩

theorem await_of_take {t : Timed σ τ} {b : β} {s : σ} (h : take t.state = some (b, s)) (delay : Nat) :
    await perform take delay t = (some b, { t with state := s }) := by
  rw [await, h]

end Timed

/-! ## Tasks -/

/-- What a session comes to by what its connection brings. -/
inductive Session.Brought (s : Session) : Session → Prop
  | nothing : Brought s s
  | connection {s' : Session} (h : Brought s s') (connection : Connection) :
      Brought s { s' with connection }
  | message {s' : Session} (h : Brought s s') (m : Message) : Brought s (s'.receive m).1
  | stop {s' : Session} (h : Brought s s') (reason : Error) : Brought s (s'.stop reason)

/-- The session of the network is this one, with what its connection has brought since. -/
def Network.Hosts (s : Session) (n : Network) : Prop := ∃ s', n.session? = some s' ∧ s.Brought s'

namespace Network

variable {s : Session} {n : Network}

theorem Hosts.of_eq {n' : Network} (h : Hosts s n) (hsession : n'.session? = n.session?) :
    Hosts s n' := by
  obtain ⟨s', hs', hbrought⟩ := h
  exact ⟨s', hsession.trans hs', hbrought⟩

theorem Hosts.modify (h : Hosts s n) (id : Nat) (f : Connection → Connection) :
    Hosts s (n.modify id f) := by
  obtain ⟨s', hs', hbrought⟩ := h
  refine ⟨{ s' with connection := if s'.connection.id = id then f s'.connection else s'.connection },
    ?_, hbrought.connection _⟩
  rw [Network.modify, hs']
  rfl

end Network

namespace TimedNetwork

open Network (Hosts)

variable {s : Session} {t : TimedNetwork}

theorem hosts_change (h : Hosts s t.state) {f : Network → Network}
    (hf : ∀ n, (f n).session? = n.session?) : Hosts s (t.change f).state :=
  h.of_eq (hf t.state)

theorem hosts_send {t' : TimedNetwork} (h : Hosts s t.state) {id : Nat} {m : Message}
    (hsent : t.send id m = .ok t') : Hosts s t'.state := by
  unfold send at hsent
  split at hsent
  · cases hsent
    exact h
  · split at hsent
    · cases hsent
      exact h.modify id _
    · cases hsent

theorem hosts_trySend (h : Hosts s t.state) (id : Nat) (m : Message) :
    Hosts s (t.trySend id m).state := by
  rw [trySend]
  split
  · rename_i t' hsent
    exact hosts_send h hsent
  · exact h

theorem hosts_carry (h : Hosts s t.state) (id : Nat) (bytes : Bytes) :
    Hosts s (t.carry id bytes).state := by
  rw [carry]
  split
  · exact h
  · split
    · exact h.modify _ _
    · exact hosts_change h fun _ => rfl

theorem hosts_endOutput (h : Hosts s t.state) (id : Nat) : Hosts s (t.endOutput id).state := by
  rw [endOutput]
  split
  · exact h.modify _ _
  · exact h

theorem hosts_write (h : Hosts s t.state) (id : Nat) : Hosts s (t.write id).state := by
  rw [write]
  split
  · exact h
  · rename_i c hc
    have hcarried := hosts_carry (t := t.change fun n => n.modify id fun _ => c.write.2)
      (h.modify id _) id c.write.1
    simp only
    split
    · split
      · exact hosts_endOutput hcarried id
      · exact hcarried
    · split
      · exact hosts_endOutput hcarried id
      · exact hcarried

/-- A message that comes in for the session is handed to it, and no other is. -/
theorem hosts_take (h : Hosts s t.state) (id : Nat) (m : Message) : Hosts s (take id t m).state := by
  rw [take]
  split
  · rename_i s₀ hs₀ _
    obtain ⟨s', hs', hbrought⟩ := h
    cases hs'.symm.trans hs₀
    exact ⟨_, rfl, hbrought.message m⟩
  · have hreceived : Hosts s (t.change fun n =>
        { n with server := (t.state.server.receive id m).1 }).state := hosts_change h fun _ => rfl
    simp only
    split
    · exact hreceived
    · exact hosts_trySend hreceived id _
    · exact hosts_change hreceived fun _ => rfl

theorem hosts_stop (h : Hosts s t.state) (id : Nat) (reason : Error) :
    Hosts s (t.stop id reason).state := by
  have hclosed : Hosts s ((t.change fun n => n.modify id Connection.close).wakeWriter id).state :=
    h.modify id Connection.close
  rw [stop]
  generalize (t.change fun n => n.modify id Connection.close).wakeWriter id = closed at hclosed ⊢
  obtain ⟨s', hs', hbrought⟩ := hclosed
  simp only [change]
  split
  · exact ⟨s'.stop reason, congrArg (Option.map _) hs', hbrought.stop reason⟩
  · exact ⟨s', hs', hbrought⟩

theorem hosts_read (h : Hosts s t.state) (id : Nat) : Hosts s (t.read id).state := by
  rw [read]
  split
  · exact h
  · rename_i c hc
    have hpumped : Hosts s (c.pump (fun t m => t.state.keeps id m) (take id) t).state.state := by
      rw [Connection.pump]
      split
      · have hagrees := Wire.Intake.takeAll_agrees c.limit c.ended
          (fun (t : TimedNetwork) m => t.state.keeps id m) (take id) t c.intake
        simp only [hagrees.state_eq]
        exact List.foldlRecOn _ _ (motive := fun t => Hosts s (Timed.state t)) h
          fun t ht m _ => hosts_take ht id m
      · exact h
    simp only
    split
    · exact hosts_stop (hpumped.modify id _) id _
    · exact hpumped.modify id _

theorem hosts_report (h : Hosts s t.state) (number : Nat) (event : Event) :
    Hosts s (t.report number event).state := by
  rw [report]
  split
  · exact h
  · rename_i call _
    have hpassed : Hosts s (t.modifyCall number (call.pass event).2).state :=
      hosts_change h fun _ => rfl
    simp only
    split
    · exact hpassed
    · split
      · rename_i t' hsent
        exact hosts_send hpassed hsent
      · split
        · exact hosts_change hpassed fun _ => rfl
        · exact hpassed

theorem hosts_finish (h : Hosts s t.state) (number : Nat) (call : Call) :
    Hosts s (t.finish number call).state := by
  simp only [finish]
  split
  · exact List.foldlRecOn _ _ (motive := fun t => Hosts s (Timed.state t)) (h.of_eq rfl)
      fun t ht _ _ => ht
  · exact h.of_eq rfl

theorem hosts_serve (h : Hosts s t.state) (number : Nat) (call : Call) :
    Hosts s (t.serve number call).state := by
  have htold : Hosts s (if call.plan.isWatched then
      t.change fun n => n.tell (.served call) else t).state := by
    split
    · exact hosts_change h fun _ => rfl
    · exact h
  rw [serve]
  generalize (if call.plan.isWatched then t.change fun n => n.tell (.served call) else t) = told
    at htold ⊢
  have hreported : Hosts s (call.plan.early.foldl (fun t event => t.report number event) told).state :=
    List.foldlRecOn _ _ (motive := fun t => Hosts s (Timed.state t)) htold
      fun t ht event _ => hosts_report ht number event
  split
  · exact hosts_finish hreported number _
  · exact hreported

theorem hosts_answer (h : Hosts s t.state) (number : Nat) (call : Call) :
    Hosts s (t.answer number call).state := by
  have hanswered := hosts_trySend h call.connection (.response call.response)
  exact List.foldlRecOn _ _ (motive := fun t => Hosts s (Timed.state t)) (hanswered.of_eq rfl)
    fun t ht event _ => hosts_trySend ht call.connection (.event event)

/-- Whatever is done in a network, to its session there happens what its connection brings. -/
theorem hosts_perform (task : NetworkTask) (t : TimedNetwork) (h : Hosts s t.state) :
    Hosts s (perform task t).state := by
  cases task with
  | read id => exact hosts_read h id
  | write id => exact hosts_write h id
  | start number => exact h
  | serve number =>
      simp only [perform]
      split
      · exact hosts_serve h number _
      · exact h
  | finish number =>
      simp only [perform]
      split
      · exact hosts_finish h number _
      · exact h
  | answer number =>
      simp only [perform]
      split
      · exact hosts_answer h number _
      · exact h
  | promise number delay event =>
      simp only [perform]
      split
      · exact hosts_report h number event
      · exact h
  | report number event => exact hosts_report h number event
  | arrive id bytes => exact h.modify id _

end TimedNetwork

end MediaControl
