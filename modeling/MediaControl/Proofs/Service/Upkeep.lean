import MediaControl.Proofs.Server.Answers
import MediaControl.Proofs.Server.Demonstration
import MediaControl.Proofs.Service.Steps

/-!
# What a service keeps up

Whatever happens to a service, its server is as a docket says, the docket knows the requests that came
in, and what the handler of each of them planned has been reported or is left to be.

One step either lets a request come in, or leaves the open channels and the rulings as they are.

Main statements: `Upkeep.step` and `upkeep_start`.
-/

set_option autoImplicit false

namespace MediaControl

open Server (Case Docket Mirrors Opening Ruling Turn)

/-! ## Dockets -/

namespace Server

/-- Who asked for what, and the ruling. -/
def Case.matter (k : Case) : Nat × Request × Ruling := (k.connection, k.request, k.ruling)

@[simp] theorem Case.matter_turn (k : Case) (t : Turn) : (k.turn t).matter = k.matter := by
  simp [matter]

/-- Every channel has demonstration handlers. -/
def Docket.IsDemo (d : Docket) : Prop :=
  ∀ key o, d.opening? key = some o → o.handlers = Demo.handlers o.id.resource

/-- The channels that are open are those that were, with the same ids let pass, and so are the
requests that came in, with the same rulings on them. -/
structure Docket.Stands (d d' : Docket) : Prop where
  opening : d'.opening? = d.opening?
  matters : d'.cases.map Case.matter = d.cases.map Case.matter

theorem Docket.Stands.refl (d : Docket) : d.Stands d := ⟨rfl, rfl⟩

theorem Docket.stands_turn (d : Docket) (n : Nat) (t : Turn) : d.Stands (d.step (.turn n t)) where
  opening := rfl
  matters := by
    refine List.ext_getElem? ?_
    intro other
    rw [List.getElem?_map, List.getElem?_map, Mirrors.getElem?_turn]
    split
    · rw [Option.map_map]
      congr 1
      exact funext fun k => k.matter_turn t
    · rfl

theorem Docket.stands_disconnect (d : Docket) (connection : Nat) :
    d.Stands (d.step (.disconnect connection)) := by
  rw [step]
  split <;> exact ⟨rfl, rfl⟩

/-- A request that comes in to a demonstration leaves one event at most. -/
theorem Docket.IsDemo.length_due_start {d : Docket} (hd : d.IsDemo) (connection : Nat) (r : Request) :
    (Case.start connection r (d.rule connection r)).due.length ≤ 1 := by
  have hrefuse : ∀ status headers,
      (Case.start connection r (.refuse r status headers)).due.length ≤ 1 :=
    fun _ _ => Nat.zero_le _
  unfold rule
  split
  · exact hrefuse ..
  · split
    · exact hrefuse ..
    · split
      · exact hrefuse ..
      · rename_i o ho
        unfold Opening.rule
        simp only
        repeat' split
        any_goals exact hrefuse ..
        rename_i handler hget
        rw [hd _ o ho, Demo.get?_handlers] at hget
        split at hget
        · obtain rfl := Option.some.inj hget
          rw [Case.due, Case.start, List.length_map]
          exact Demo.length_late_handler ..
        · cases hget

theorem Docket.IsDemo.enter {d : Docket} (hd : d.IsDemo) (connection : Nat) (r : Request) :
    (d.enter connection r).IsDemo := by
  intro key o ho
  rw [Docket.enter, openingsAfter] at ho
  cases hnamed : Headers.channelId r.headers with
  | error reason =>
      simp only [hnamed] at ho
      exact hd key o ho
  | ok named =>
      simp only [hnamed] at ho
      split at ho
      · obtain ⟨o₀, ho₀, rfl⟩ := Option.map_eq_some_iff.mp ho
        rw [Opening.handlers_pass, Opening.id_pass]
        exact hd key o₀ ho₀
      · exact hd key o ho

/-- Every channel was opened with its key and demonstration handlers, and nothing has come in yet. -/
structure Docket.IsFresh (d : Docket) : Prop where
  cases : d.cases = []
  opening : ∀ key o, d.opening? key = some o →
    o.id.key = key ∧ o.handlers = Demo.handlers o.id.resource ∧ ∀ connection, o.passed connection = []

theorem Docket.IsFresh.isDemo {d : Docket} (hd : d.IsFresh) : d.IsDemo :=
  fun key o ho => (hd.opening key o ho).2.1

theorem Docket.IsFresh.openChannel {d : Docket} (hd : d.IsFresh) (id : ChannelId) :
    (d.openChannel id (Demo.handlers id.resource)).IsFresh := by
  unfold Docket.openChannel
  split
  · refine ⟨hd.cases, ?_⟩
    intro key o ho
    simp only at ho
    split at ho
    · rename_i hkey
      obtain rfl := Option.some.inj ho
      exact ⟨hkey.symm, rfl, fun _ => rfl⟩
    · exact hd.opening key o ho
  · exact hd

end Server

namespace Service

/-! ## Events that are left -/

/-- What is left to be reported for a request. -/
def leftFor (tasks : List (Nat × Event)) (request : Nat) : List Event :=
  (tasks.filter fun t => t.1 = request).map Prod.snd

theorem leftFor_append (before after : List (Nat × Event)) (request : Nat) :
    leftFor (before ++ after) request = leftFor before request ++ leftFor after request := by
  rw [leftFor, List.filter_append, List.map_append]
  rfl

/-- A handler leaves what its case calls for. -/
theorem leftFor_leftBy {h : Server.History} {k : Docket} (hm : Mirrors h k) {n : Nat} {c : Case}
    (hc : k.cases[n]? = some c) (request : Nat) :
    leftFor (leftBy h n) request = if request = n then c.due else [] := by
  have hcall : h.calls.get? n = c.work? := by
    rw [hm.calls, hc, Option.bind_some]
  unfold leftBy
  rw [hcall]
  cases hwork : c.work? with
  | none =>
      rw [Case.due_of_work?_eq_none hwork, ite_self]
      rfl
  | some w =>
      rw [(Case.planned_work? hwork).2]
      by_cases hrequest : request = n
      · simp [leftFor, List.filter_map, Function.comp_def, hrequest]
      · simp [leftFor, List.filter_map, Function.comp_def, hrequest, Ne.symm hrequest]

/-- A task that is done is left no more, and every other is. -/
theorem leftFor_eraseIdx {tasks : List (Nat × Event)} {i n : Nat} {e : Event}
    (ht : tasks[i]? = some (n, e)) :
    (∃ before after, leftFor tasks n = before ++ e :: after ∧
      leftFor (tasks.eraseIdx i) n = before ++ after) ∧
    ∀ request, request ≠ n → leftFor (tasks.eraseIdx i) request = leftFor tasks request := by
  have hsplit : tasks = tasks.take i ++ [(n, e)] ++ tasks.drop (i + 1) := by
    have hdrop := List.drop_eq_getElem?_toList_append (l := tasks) (i := i)
    rw [ht] at hdrop
    rw [List.append_assoc]
    exact (List.take_append_drop i tasks).symm.trans (congrArg _ hdrop)
  have hself : leftFor [(n, e)] n = [e] := by simp [leftFor]
  rw [List.eraseIdx_eq_take_drop_succ]
  refine ⟨⟨leftFor (tasks.take i) n, leftFor (tasks.drop (i + 1)) n, ?_, leftFor_append ..⟩, ?_⟩
  · have hleft := congrArg (fun tasks => leftFor tasks n) hsplit
    simp only [leftFor_append, hself] at hleft
    rw [hleft, List.append_assoc]
    rfl
  · intro request hrequest
    have hother : leftFor [(n, e)] request = [] := by simp [leftFor, Ne.symm hrequest]
    have hleft := congrArg (fun tasks => leftFor tasks request) hsplit
    simp only [leftFor_append, hother, List.append_nil] at hleft
    rw [leftFor_append, hleft]

/-! ## What is kept up -/

/-- A service and a docket of its server: the channels have demonstration handlers, the requests that
came in are those of the docket, and all that their handlers planned has been reported or is left. -/
structure Upkeep (s : Service) (d : Docket) : Prop where
  mirrors : Mirrors s.history d
  faithful : s.history.Faithful
  log : s.log = d.cases.map fun k => (k.connection, k.request)
  demo : d.IsDemo
  proper : ∀ k ∈ d.cases, k.Proper
  plan : ∀ k ∈ d.cases, k.FollowsPlan
  length_due : ∀ k ∈ d.cases, k.due.length ≤ 1
  due : ∀ n k, d.cases[n]? = some k → k.events ++ leftFor s.tasks n = k.due
  task_lt : ∀ task ∈ s.tasks, task.1 < d.cases.length

namespace Upkeep

variable {s : Service} {d : Docket}

theorem messages_prefix_script (hs : Upkeep s d) {n : Nat} {k : Case} (hk : d.cases[n]? = some k) :
    k.messages <+: k.script :=
  Case.messages_prefix_script (hs.plan k (List.mem_of_getElem? hk)) (hs.due n k hk)

/-- Something happens to a connection. -/
theorem change (hs : Upkeep s d) (connection : Nat) {f : Connection → Connection} (hf : Tame f) :
    Upkeep (s.change connection f) d :=
  { hs with
    mirrors := hs.mirrors.modifyLine
      (f := fun l => { l with connection := f l.connection })
      (fun l => hf.reading l.connection) connection
    faithful := hs.faithful.modify
      (f := fun l => { l with connection := f l.connection })
      (fun l => congrArg (l.written ++ ·) (hf.outbound l.connection)) connection }

/-- Something happens to the server that concerns neither channels nor requests. -/
theorem pass (hs : Upkeep s d) {op : Server.Op} (hopening : (d.step op).opening? = d.opening?)
    (hcases : (d.step op).cases = d.cases) : Upkeep (s.pass op) (d.step op) where
  mirrors := hs.mirrors.step op
  faithful := hs.faithful.step op
  log := by
    rw [hcases]
    exact hs.log
  demo := by
    unfold Docket.IsDemo
    rw [hopening]
    exact hs.demo
  proper := Docket.proper_step hs.proper op
  plan := hcases ▸ hs.plan
  length_due := hcases ▸ hs.length_due
  due := by
    rw [hcases]
    exact hs.due
  task_lt := by
    rw [hcases]
    exact hs.task_lt

/-! ### Requests -/

theorem enter (hs : Upkeep s d) {connection : Nat} {r : Request} (hlive : d.isLive connection = true) :
    Upkeep (s.receive connection (.request r)) (d.enter connection r) := by
  have hstep : d.step (.receive connection (.request r)) = d.enter connection r := if_pos hlive
  have hmirrors := hs.mirrors.step (.receive connection (.request r))
  rw [hstep] at hmirrors
  have hasked : s.history.asked = d.cases.length := hs.mirrors.asked
  have hlast := Mirrors.getElem?_enter d connection r s.history.asked
  rw [if_pos hasked] at hlast
  have hleft := leftFor_leftBy hmirrors hlast
  exact {
    mirrors := hmirrors
    faithful := hs.faithful.step _
    log := by
      rw [Docket.enter, List.map_append, ← hs.log]
      rfl
    demo := hs.demo.enter connection r
    proper := Docket.proper_enter hs.proper connection r
    plan := by
      intro k hk
      rcases List.mem_append.mp hk with hk | hk
      · exact hs.plan k hk
      · rw [List.mem_singleton.mp hk]
        exact Case.followsPlan_start connection r _
    length_due := by
      intro k hk
      rcases List.mem_append.mp hk with hk | hk
      · exact hs.length_due k hk
      · rw [List.mem_singleton.mp hk]
        exact hs.demo.length_due_start connection r
    due := by
      intro n k hk
      show k.events ++ leftFor (s.tasks ++ leftBy _ _) n = k.due
      rw [leftFor_append, hleft, hasked]
      rw [Mirrors.getElem?_enter] at hk
      split at hk
      · rename_i hn
        obtain rfl := Option.some.inj hk
        have hnone : leftFor s.tasks n = [] := by
          rw [leftFor, List.map_eq_nil_iff, List.filter_eq_nil_iff]
          intro task htask hsame
          exact Nat.ne_of_lt (hs.task_lt task htask) ((of_decide_eq_true hsame).trans hn)
        rw [hnone, if_pos hn]
        rfl
      · rename_i hn
        rw [if_neg hn, List.append_nil]
        exact hs.due n k hk
    task_lt := by
      intro task htask
      rw [d.length_cases_enter]
      rcases List.mem_append.mp htask with htask | htask
      · exact Nat.lt_succ_of_lt (hs.task_lt task htask)
      · have hmem : task.2 ∈ leftFor (leftBy _ _) task.1 :=
          List.mem_map.mpr ⟨task, List.mem_filter.mpr ⟨htask, decide_eq_true rfl⟩, rfl⟩
        rw [hleft] at hmem
        split at hmem
        · rename_i hn
          rw [hn, hasked]
          exact Nat.lt_succ_self _
        · cases hmem }

/-- A message comes in: a request is ruled on, and nothing comes of any other message. -/
theorem receive (hs : Upkeep s d) {connection : Nat} (hlive : s.history.isLive connection = true)
    (m : Message) : Upkeep (s.receive connection m) (d.step (.receive connection m)) := by
  have hlive' : d.isLive connection = true := (hs.mirrors.isLive connection).symm.trans hlive
  have hother : ∀ m, (d.step (.receive connection m)) = d → s.log = (s.receive connection m).log →
      Upkeep (s.receive connection m) d := by
    intro m hstep hlog
    have hmirrors := hs.mirrors.step (.receive connection m)
    rw [hstep] at hmirrors
    have htasks : (s.receive connection m).tasks = s.tasks := by
      have hidle : leftBy (s.history.step (.receive connection m)) s.history.asked = [] := by
        unfold leftBy
        rw [hmirrors.calls, hs.mirrors.asked, List.getElem?_eq_none (Nat.le_refl _)]
        rfl
      show s.tasks ++ leftBy _ _ = s.tasks
      rw [hidle, List.append_nil]
    exact { hs with
      mirrors := hmirrors
      faithful := hs.faithful.step _
      log := hlog.symm.trans hs.log
      due := htasks.symm ▸ hs.due
      task_lt := htasks.symm ▸ hs.task_lt }
  cases m with
  | request r =>
      rw [show d.step (.receive connection (.request r)) = d.enter connection r from if_pos hlive']
      exact hs.enter hlive'
  | response r => exact hother _ rfl rfl
  | event e => exact hother _ rfl rfl

/-! ### Turns -/

/-- A turn of the handler of a request keeps a service up, if the handler ends as it planned and what
it reports was left to be reported. -/
theorem turn_of_due (hs : Upkeep s d) {n : Nat} {t : Turn} {tasks : List (Nat × Event)}
    (hplan : ∀ outcome, t = .finish outcome → ∀ k, d.cases[n]? = some k →
      k.planned.outcome = outcome)
    (hdue : ∀ k, d.cases[n]? = some k → (k.turn t).events ++ leftFor tasks n = k.due)
    (hothers : ∀ request, request ≠ n → leftFor tasks request = leftFor s.tasks request)
    (hsubset : tasks ⊆ s.tasks) :
    Upkeep { s.pass (.turn n t) with tasks } (d.step (.turn n t)) := by
  have hcase : ∀ {P : Case → Prop}, (∀ (i : Nat) k, d.cases[i]? = some k → P k) →
      (∀ k, d.cases[n]? = some k → P (k.turn t)) → ∀ k ∈ (d.step (.turn n t)).cases, P k := by
    intro P hall hturned k hk
    obtain ⟨i, hi⟩ := List.getElem?_of_mem hk
    rw [Mirrors.getElem?_turn] at hi
    split at hi
    · rename_i hn
      subst hn
      obtain ⟨k₀, hk₀, rfl⟩ := Option.map_eq_some_iff.mp hi
      exact hturned k₀ hk₀
    · exact hall i k hi
  exact {
    mirrors := hs.mirrors.step (.turn n t)
    faithful := hs.faithful.step (.turn n t)
    log := by
      have hmatters := congrArg (List.map fun matter => (matter.1, matter.2.1))
        (d.stands_turn n t).matters
      rw [List.map_map, List.map_map] at hmatters
      exact hs.log.trans hmatters.symm
    demo := hs.demo
    proper := Docket.proper_step hs.proper (.turn n t)
    plan := by
      refine hcase (P := Case.FollowsPlan) (fun i k hk => hs.plan k (List.mem_of_getElem? hk)) ?_
      intro k hk
      exact (hs.plan k (List.mem_of_getElem? hk)).turn fun outcome ht => hplan outcome ht k hk
    length_due := by
      refine hcase (P := fun k => k.due.length ≤ 1)
        (fun i k hk => hs.length_due k (List.mem_of_getElem? hk)) ?_
      intro k hk
      rw [k.due_turn]
      exact hs.length_due k (List.mem_of_getElem? hk)
    due := by
      intro i k hk
      rw [Mirrors.getElem?_turn] at hk
      split at hk
      · rename_i hn
        subst hn
        obtain ⟨k₀, hk₀, rfl⟩ := Option.map_eq_some_iff.mp hk
        rw [k₀.due_turn]
        exact hdue k₀ hk₀
      · rename_i hn
        have hleft : leftFor tasks i = leftFor s.tasks i := hothers i (Ne.symm hn)
        show k.events ++ leftFor tasks i = k.due
        rw [hleft]
        exact hs.due i k hk
    task_lt := by
      intro task htask
      rw [d.length_cases_turn]
      exact hs.task_lt task (hsubset htask) }

/-- The handler ends as it planned, its response is queued, or what was held up is let go. -/
theorem turn (hs : Upkeep s d) {n : Nat} {t : Turn} (ht : ∀ e, t ≠ .report e)
    (hplan : ∀ outcome, t = .finish outcome →
      ∃ w, s.history.calls.get? n = some w ∧ w.call.plan.outcome = outcome) :
    Upkeep (s.pass (.turn n t)) (d.step (.turn n t)) := by
  show Upkeep { s.pass (.turn n t) with tasks := s.tasks } (d.step (.turn n t))
  refine hs.turn_of_due ?_ ?_ (fun _ _ => rfl) (List.Subset.refl _)
  · intro outcome hfinish k hk
    obtain ⟨w, hw, rfl⟩ := hplan outcome hfinish
    rw [hs.mirrors.calls, hk, Option.bind_some] at hw
    exact (Case.planned_work? hw).1
  · intro k hk
    rw [Case.events_turn_of_ne ht]
    exact hs.due n k hk

theorem complete (hs : Upkeep s d) {i n : Nat} {e : Event} (ht : s.tasks[i]? = some (n, e)) :
    Upkeep { s.pass (.turn n (.report e)) with tasks := s.tasks.eraseIdx i }
      (d.step (.turn n (.report e))) := by
  obtain ⟨⟨before, after, hleft, hrest⟩, hothers⟩ := leftFor_eraseIdx ht
  refine hs.turn_of_due (fun outcome hfinish => by cases hfinish) ?_ hothers (List.eraseIdx_subset ..)
  intro k hk
  have hlength := hs.length_due k (List.mem_of_getElem? hk)
  exact Case.events_report_of_due hlength (hs.due n k hk) hleft hrest

/-! ### Steps -/

/-- The docket afterwards: it stands, or one request more has come in. -/
def Goes (d : Docket) (s' : Service) : Prop :=
  ∃ d', Upkeep s' d' ∧
    (d.Stands d' ∨ ∃ connection r, d.isLive connection = true ∧ d' = d.enter connection r)

theorem goes_self (hs : Upkeep s d) : Goes d s := ⟨d, hs, .inl (.refl d)⟩

theorem goes_change (hs : Upkeep s d) (connection : Nat) {f : Connection → Connection} (hf : Tame f) :
    Goes d (s.change connection f) := ⟨d, hs.change connection hf, .inl (.refl d)⟩

theorem goes_disconnect (hs : Upkeep s d) (connection : Nat) :
    Goes d (s.pass (.disconnect connection)) := by
  have hstands := d.stands_disconnect connection
  refine ⟨_, hs.pass hstands.opening ?_, .inl hstands⟩
  rw [Docket.step]
  split <;> rfl

theorem goes_take (hs : Upkeep s d) (connection : Nat) : Goes d (s.take connection) := by
  rcases s.take_cases connection with ⟨-, heq⟩ | ⟨c, hc, hreading, hcase⟩
  · rw [heq]
    exact hs.goes_self
  · rcases hcase with ⟨m, rest, -, heq⟩ | ⟨rest, -, -, heq⟩ | ⟨-, heq⟩
    · rw [heq]
      have hleft := hs.change connection (tame_leave rest)
      have hlive : (s.change connection fun c => c.leave rest).history.isLive connection = true := by
        rw [hleft.mirrors.isLive, ← hs.mirrors.isLive]
        exact isLive_of_connection? hc hreading
      refine ⟨_, hleft.receive hlive m, ?_⟩
      cases m with
      | request r =>
          rw [hleft.mirrors.isLive] at hlive
          exact .inr ⟨connection, r, hlive, if_pos hlive⟩
      | response r => exact .inl (.refl d)
      | event e => exact .inl (.refl d)
    · rw [heq]
      exact hs.goes_change connection (tame_leave rest)
    · rw [heq]
      exact hs.goes_disconnect connection

theorem goes_turn (hs : Upkeep s d) (n : Nat) (stage : Server.Stage) (t : Call → Turn)
    (ht : ∀ call e, t call ≠ .report e)
    (hplan : ∀ call outcome, t call = .finish outcome → call.plan.outcome = outcome) :
    Goes d (s.turn n stage t) := by
  rcases s.turn_cases n stage t with ⟨-, heq⟩ | ⟨w, hw, -, heq⟩
  · rw [heq]
    exact hs.goes_self
  · rw [heq]
    refine ⟨_, hs.turn (ht w.call) ?_, .inl (d.stands_turn n _)⟩
    exact fun outcome hfinish => ⟨w, hw, hplan w.call outcome hfinish⟩

theorem goes_complete (hs : Upkeep s d) (task : Nat) : Goes d (s.complete task) := by
  unfold Service.complete
  cases htask : s.tasks[task]? with
  | none => exact hs.goes_self
  | some left => exact ⟨_, hs.complete htask, .inl (d.stands_turn left.1 _)⟩

/-- Whatever happens is kept up. -/
theorem step (hs : Upkeep s d) (op : Op) : Goes d (s.step op) := by
  cases op with
  | deed deed =>
      cases deed with
      | connect peer limit =>
          have hconnected : Upkeep (s.pass (.connect peer limit)) (d.step (.connect peer limit)) :=
            hs.pass rfl rfl
          exact ⟨_, hconnected, .inl ⟨rfl, rfl⟩⟩
      | send connection bytes => exact hs.goes_change connection (tame_offer bytes)
      | hangUp connection => exact hs.goes_change connection tame_endInput
      | cut connection => exact hs.goes_change connection tame_close
  | move move =>
      cases move with
      | read connection size => exact hs.goes_change connection (tame_readSome size)
      | take connection => exact hs.goes_take connection
      | notice connection =>
          show Goes d (s.notice connection)
          rcases s.notice_cases connection with heq | ⟨c, -, -, -, heq⟩ <;> rw [heq]
          · exact hs.goes_self
          · exact hs.goes_disconnect connection
      | write connection =>
          show Goes d (s.write connection)
          rcases s.write_cases connection with
            ⟨-, heq⟩ | ⟨c, m, rest, -, -, -, ⟨-, heq⟩ | ⟨-, heq⟩⟩ <;> rw [heq]
          · exact hs.goes_self
          · have hdrained : Upkeep (s.pass (.drain connection)) d := hs.pass rfl rfl
            exact ⟨d, hdrained, .inl (.refl d)⟩
          · exact hs.goes_change connection tame_giveUp
      | quit connection =>
          show Goes d (s.quit connection)
          rcases s.quit_cases connection with heq | ⟨c, -, -, -, heq⟩ <;> rw [heq]
          · exact hs.goes_self
          · exact hs.goes_change connection tame_quit
      | finish n =>
          exact hs.goes_turn n .working (fun call => .finish call.plan.outcome)
            (fun _ _ => Turn.noConfusion) fun _ _ => Turn.finish.inj
      | complete task => exact hs.goes_complete task
      | answer n =>
          exact hs.goes_turn n .ended (fun _ => .answer) (fun _ _ => Turn.noConfusion)
            fun _ _ => Turn.noConfusion
      | release n =>
          exact hs.goes_turn n .answered (fun _ => .release) (fun _ _ => Turn.noConfusion)
            fun _ _ => Turn.noConfusion

/-! ### At rest -/

/-- When no step is left, nothing is left to be reported. -/
theorem tasks_of_isQuiet (hquiet : s.IsQuiet) : s.tasks = [] := by
  have hmove := hquiet (.complete 0)
  cases htasks : s.tasks with
  | nil => rfl
  | cons task tasks =>
      have hlater : (s.move (.complete 0)).tasks = tasks := by
        show (s.complete 0).tasks = tasks
        simp only [Service.complete, htasks, List.getElem?_cons_zero, List.eraseIdx_cons_zero]
      rw [hmove, htasks] at hlater
      exact absurd (congrArg List.length hlater) (by simp)

/-- When no step is left, no call has a turn left. -/
theorem stage_of_isQuiet (hquiet : s.IsQuiet) {n : Nat} {w : Server.Work}
    (hw : s.history.calls.get? n = some w) : w.stage = .released := by
  have hstuck : ∀ move stage t, s.move move = s.turn n stage t → w.stage = stage →
      (w.turn (t w.call)).2.stage = stage := by
    intro move stage t hmove hstage
    rcases s.turn_cases n stage t with ⟨hother, -⟩ | ⟨w', hw', -, heq⟩
    · exact absurd hstage (hother w hw)
    · obtain rfl := Option.some.inj (hw.symm.trans hw')
      have hturned := Server.History.get?_calls_turn s.history n (t w.call) n
      have hsame : s.history.step (.turn n (t w.call)) = s.history :=
        congrArg Service.history ((hmove.trans heq).symm.trans (hquiet move))
      rw [hsame, if_pos rfl, hw, Option.map_some] at hturned
      rw [← Option.some.inj hturned]
      exact hstage
  cases hstage : w.stage with
  | working =>
      have hnext := hstuck (.finish n) .working (fun call => .finish call.plan.outcome) rfl hstage
      simp [Server.Work.turn, hstage] at hnext
  | ended =>
      have hnext := hstuck (.answer n) .ended (fun _ => .answer) rfl hstage
      simp [Server.Work.turn, hstage] at hnext
  | answered =>
      have hnext := hstuck (.release n) .answered (fun _ => .release) rfl hstage
      simp [Server.Work.turn, hstage] at hnext
  | released => rfl

/-- When no step is left, all that was planned for a request is to have been queued. -/
theorem messages_of_isQuiet (hs : Upkeep s d) (hquiet : s.IsQuiet) {n : Nat} {k : Case}
    (hk : d.cases[n]? = some k) : k.messages = k.script := by
  have hmem := List.mem_of_getElem? hk
  have hdue := hs.due n k hk
  rw [tasks_of_isQuiet hquiet] at hdue
  refine Case.messages_eq_script (hs.plan k hmem) ((List.append_nil _).symm.trans hdue) ?_
  have hcall := hs.mirrors.calls n
  rw [hk, Option.bind_some, Case.work?] at hcall
  cases hruling : k.ruling with
  | refused response => exact (hs.proper k hmem).released response hruling
  | handled channel handler =>
      rw [hruling] at hcall
      exact stage_of_isQuiet hquiet hcall

end Upkeep

/-! ## The start -/

/-- The docket of a service at its start. -/
def ground (channels : List ChannelId) (connections : List (String × Nat)) : Docket :=
  Docket.run {} (opening channels connections)

/-- What is kept when a channel is opened with demonstration handlers, and when a connection is made,
holds at the start. -/
theorem ground_of_keeps {P : Docket → Prop} (hempty : P {})
    (hopen : ∀ d id, P d → P (d.openChannel id (Demo.handlers id.resource)))
    (hconnect : ∀ d peer limit, P d → P (d.step (.connect peer limit)))
    (channels : List ChannelId) (connections : List (String × Nat)) : P (ground channels connections) := by
  have hopened : ∀ d : Docket, P d →
      P (d.run (channels.map fun id => .openChannel id (Demo.handlers id.resource))) := by
    induction channels with
    | nil => exact fun d hd => hd
    | cons id channels ih => exact fun d hd => ih _ (hopen d id hd)
  have hconnected : ∀ d : Docket, P d → P (d.run (connections.map fun c => .connect c.1 c.2)) := by
    induction connections with
    | nil => exact fun d hd => hd
    | cons c connections ih => exact fun d hd => ih _ (hconnect d c.1 c.2 hd)
  rw [ground, opening, Docket.run, List.foldl_append]
  exact hconnected _ (hopened {} hempty)

theorem fresh_ground (channels : List ChannelId) (connections : List (String × Nat)) :
    (ground channels connections).IsFresh :=
  ground_of_keeps ⟨rfl, fun key o ho => (by cases ho)⟩ (fun d id hd => hd.openChannel id)
    (fun d peer limit hd => ⟨hd.cases, hd.opening⟩) channels connections

theorem upkeep_start (channels : List ChannelId) (connections : List (String × Nat)) :
    Upkeep (start channels connections) (ground channels connections) := by
  have hfresh := fresh_ground channels connections
  have hcases := hfresh.cases
  exact {
    mirrors := Server.mirrors_start.run _
    faithful := Server.History.faithful_start.run _
    log := by
      rw [hcases]
      rfl
    demo := hfresh.isDemo
    proper := fun k hk => by simp [hcases] at hk
    plan := fun k hk => by simp [hcases] at hk
    length_due := fun k hk => by simp [hcases] at hk
    due := fun n k hk => by simp [hcases] at hk
    task_lt := fun task htask => by cases htask }

end Service

end MediaControl
