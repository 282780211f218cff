import MediaControl.Proofs.Client.Unsolicited
import Mathlib.Data.List.Dedup
import Mathlib.Data.List.Perm.Subperm

/-!
# Calls for the next event (SPEC_FULL §4.7)

Any number of calls may wait for the next event of a channel, and any number may be made once it has
ended.  Each item of the line answers one of them, and the end of the channel puts one failure there; so
as many calls return as items wait then, the failure among them, and the others wait on.

Main statements: `ClosedAt.eventsAt?_step` (nothing joins the line of a closed channel),
`Served.happens`, `Served.asks` and `Served.run` (whom the line answers), `Served.answered` (how many
calls that are), and `calls_answered`.
-/

set_option autoImplicit false

namespace MediaControl.Session

/-! ## Operations that leave the line alone -/

/-- The operation takes nothing out of the line of the channel. -/
def Op.sparesEvents (number : Nat) : Op → Prop
  | .listen other _ | .takeEvent other | .abandonChannel other => other ≠ number
  | _ => True

/-- The operation may put something into the line of the channel. -/
def Op.feedsEvents (number : Nat) : Op → Prop
  | .receive _ | .stop _ => True
  | .closeChannel other => other = number
  | _ => False

theorem eventsAt?_sendOn {s : Session} {number : Nat} {c : ClientChannel}
    (hc : s.channel? number = some c) (r : Request) (other : Nat) :
    (s.sendOn number c.id r).2.eventsAt? other = s.eventsAt? other := by
  have hnext := s.eventsAt?_modify number (f := fun c => { c with nextId := c.nextId + 1 })
    (fun _ => ⟨rfl, rfl⟩) other
  cases hopen : c.isClosed with
  | true => rw [sendOn_of_isClosed hc hopen]
  | false =>
      cases hconnection : s.connection.closed with
      | true =>
          rw [sendOn_of_closed hc hopen hconnection]
          exact hnext
      | false =>
          rw [sendOn_eq hc hopen hconnection]
          exact hnext

theorem KeepsChannels.nodup {s s' : Session} (hsame : KeepsChannels s s')
    (hnodup : s.table.keys.Nodup) : s'.table.keys.Nodup := by
  rw [hsame.table]
  exact hnodup

namespace History

variable {h h' : History} {number : Nat}

theorem Opened.eventsAt? (hopened : h.Opened h') {events : Bool × Mailbox Error Message}
    (hevents : h.session.eventsAt? number = some events) :
    h'.session.eventsAt? number = some events := by
  cases hopened with
  | refused => exact hevents
  | opened hopened =>
      obtain ⟨-, -, -, rfl⟩ := openChannel_eq_ok hopened
      obtain ⟨c, hc, rfl⟩ := Option.map_eq_some_iff.mp hevents
      have hlt := (List.getElem?_eq_some_iff.mp hc).1
      rw [Session.eventsAt?, Session.channel?, List.getElem?_append_left hlt]
      exact hevents

/-- An operation that neither takes from the line nor may put anything there leaves it as it is. -/
theorem eventsAt?_step {events : Bool × Mailbox Error Message}
    (hevents : h.session.eventsAt? number = some events) {op : Op} (hspares : op.sparesEvents number)
    (hfeeds : ¬ op.feedsEvents number) : (h.step op).session.eventsAt? number = some events := by
  cases op with
  | openChannel id => exact (h.openChannel_cases id).eventsAt? hevents
  | openNamed text => exact (h.openNamed_cases text).eventsAt? hevents
  | invoke other r =>
      rw [step, invoke?]
      cases hc : h.session.channel? other with
      | none => exact hevents
      | some c =>
          have hsame := eventsAt?_sendOn hc r number
          simp only [Option.map_some]
          generalize h.session.sendOn other c.id r = result at hsame
          rcases result with ⟨e | p, session⟩
          · exact hsame.trans hevents
          · exact hsame.trans hevents
  | receive m => exact absurd trivial hfeeds
  | take p =>
      rw [step]
      split
      · exact hevents
      · exact hevents
  | closeChannel other => exact (h.session.eventsAt?_closeChannel_of_ne hfeeds).trans hevents
  | listen other listener => exact (h.session.eventsAt?_modify_of_ne hspares _).trans hevents
  | unlisten other =>
      exact (h.session.eventsAt?_modify other (f := fun c => { c with listener? := none })
        (fun _ => ⟨rfl, rfl⟩) number).trans hevents
  | takeEvent other =>
      rw [step, takeEvent?_eq]
      cases h.session.waitingAt other with
      | nil => exact hevents
      | cons item rest => exact (h.session.eventsAt?_modify_of_ne hspares _).trans hevents
  | abandonChannel other => exact (h.session.eventsAt?_modify_of_ne hspares _).trans hevents
  | stop reason => exact absurd trivial hfeeds
  | failRest =>
      rw [step]
      split
      · exact hevents
      · exact hevents
  | letGo p => exact hevents
  | transport connection => exact hevents

/-! ## Closed channels -/

/-- No key has two rows in the table. -/
theorem nodup_table_step (hnodup : h.session.table.keys.Nodup) (op : Op) :
    (h.step op).session.table.keys.Nodup := by
  have hopened : ∀ {h'}, h.Opened h' → h'.session.table.keys.Nodup := by
    intro h' hopened
    cases hopened with
    | refused => exact hnodup
    | opened hopened =>
        obtain ⟨-, -, -, rfl⟩ := openChannel_eq_ok hopened
        exact Table.nodup_keys_insert hnodup _ _
  cases op with
  | openChannel id => exact hopened (h.openChannel_cases id)
  | openNamed text => exact hopened (h.openNamed_cases text)
  | invoke other r =>
      have hinvoked := h.invoke_cases other r
      generalize h.step (.invoke other r) = h' at hinvoked
      cases hinvoked with
      | absent hc => exact hnodup
      | refused hc hclosed => exact hnodup
      | queued hc hopen hconnection hid hslot hsame hcorrelator => exact hsame.nodup hnodup
      | withdrawn hc hopen hsame hcorrelator => exact hsame.nodup hnodup
  | closeChannel other =>
      rw [step]
      rcases h.session.closeChannel_cases other with hsame | ⟨c, hby⟩
      · exact hsame.symm ▸ hnodup
      · exact hby.table ▸ Table.nodup_keys_erase hnodup _
  | _ => exact (h.keepsChannels_step rfl).1.nodup hnodup

theorem nodup_table_run (hnodup : h.session.table.keys.Nodup) (ops : List Op) :
    (h.run ops).session.table.keys.Nodup := by
  induction ops generalizing h with
  | nil => exact hnodup
  | cons op ops ih => exact ih (nodup_table_step hnodup op)

/-- The history is sound, no key has two rows in the table, and the channel is closed. -/
structure ClosedAt (h : History) (number : Nat) : Prop where
  sound : h.Sound
  nodup : h.session.table.keys.Nodup
  closed : ∃ line, h.session.eventsAt? number = some (true, line)

theorem ClosedAt.isUnrouted (hclosed : h.ClosedAt number) : h.session.IsUnrouted number := by
  rintro ⟨key, target⟩ hrow rfl
  obtain ⟨line, hevents⟩ := hclosed.closed
  obtain ⟨c, hc, hsame⟩ := Option.map_eq_some_iff.mp hevents
  have hget := (Table.mem_rows_iff hclosed.nodup).mp hrow
  obtain ⟨c', hc', hopen, -⟩ := (hclosed.sound.table key target).mp hget
  cases hc'.symm.trans (standing?_of_channel? hc)
  exact Bool.noConfusion (hopen.symm.trans (Prod.mk.inj hsame).1)

/-- Nothing joins the line of a closed channel. -/
theorem ClosedAt.eventsAt?_step (hclosed : h.ClosedAt number) {op : Op}
    (hspares : op.sparesEvents number) :
    (h.step op).session.eventsAt? number = h.session.eventsAt? number := by
  obtain ⟨line, hevents⟩ := hclosed.closed
  by_cases hfeeds : op.feedsEvents number
  · cases op with
    | receive m => exact Session.eventsAt?_receive hclosed.isUnrouted m
    | stop reason =>
        exact Session.eventsAt?_stop
          (s := { h.session with connection := h.session.connection.close }) hclosed.isUnrouted reason
    | closeChannel other =>
        obtain rfl : other = number := hfeeds
        obtain ⟨c, hc, hsame⟩ := Option.map_eq_some_iff.mp hevents
        rw [step, Session.closeChannel, hc]
        simp only [(Prod.mk.inj hsame).1, if_true]
    | _ => exact hfeeds.elim
  · exact (History.eventsAt?_step hevents hspares hfeeds).trans hevents.symm

theorem ClosedAt.step (hclosed : h.ClosedAt number) {op : Op} (hspares : op.sparesEvents number) :
    (h.step op).ClosedAt number where
  sound := hclosed.sound.step op
  nodup := nodup_table_step hclosed.nodup op
  closed := by
    rw [hclosed.eventsAt?_step hspares]
    exact hclosed.closed

theorem eventsAt?_takeEvent {item : Except Error Message} {session : Session}
    {events : Bool × Mailbox Error Message} (hevents : h.session.eventsAt? number = some events)
    (htaken : h.session.takeEvent? number = some (item, session)) :
    ∃ line, session.eventsAt? number = some (events.1, line) := by
  obtain ⟨c, rest, hc, -, hleft⟩ := takeEvent?_eq_some htaken
  have hafter := eventsAt?_of_channel? hleft
  cases hevents.symm.trans (eventsAt?_of_channel? hc)
  exact ⟨_, hafter⟩

theorem ClosedAt.takeEvent (hclosed : h.ClosedAt number) {item : Except Error Message}
    {session : Session} (htaken : h.session.takeEvent? number = some (item, session)) :
    ClosedAt { h with session } number := by
  have hstep : h.step (.takeEvent number) = { h with session } := by
    rw [History.step, htaken]
  obtain ⟨line, hevents⟩ := hclosed.closed
  refine ⟨hstep ▸ hclosed.sound.step _, ?_, History.eventsAt?_takeEvent hevents htaken⟩
  exact (keepsChannels_takeEvent htaken).1.nodup hclosed.nodup

theorem Sound.closedAt (hs : h.Sound) (hnodup : h.session.table.keys.Nodup) {c : ClientChannel}
    (hc : h.session.channel? number = some c) (hopen : c.isClosed = false) :
    (h.step (.closeChannel number)).ClosedAt number where
  sound := hs.step _
  nodup := nodup_table_step hnodup _
  closed := ⟨_, eventsAt?_closeChannel hc hopen⟩

end History

/-! ## Calls -/

/-- A session, and the calls for the next event of a channel that have returned, each with its item. -/
structure Readers where
  history : History
  returned : List (Nat × Except Error Message) := []

namespace Readers

open History (ClosedAt)

/-- What can happen: something to the session, or a call looks whether something waits. -/
inductive Move where
  | happens (op : Op)
  | asks (call : Nat)

/-- One move.  A call that has returned does not look again. -/
def step (number : Nat) (x : Readers) : Move → Readers
  | .happens op => { x with history := x.history.step op }
  | .asks call =>
    if call ∈ x.returned.map Prod.fst then x
    else match x.history.session.takeEvent? number with
      | some (item, session) =>
        { history := { x.history with session }, returned := x.returned ++ [(call, item)] }
      | none => x

/-- Moves, first to last. -/
def run (number : Nat) (x : Readers) (moves : List Move) : Readers := moves.foldl (step number) x

/-- The call that looks. -/
def Move.call? : Move → Option Nat
  | .happens _ => none
  | .asks call => some call

/-- The calls that look, one after the other. -/
def asking (moves : List Move) : List Nat := moves.filterMap Move.call?

/-- The line answers the calls in its order, each of them with one item, and no call that looked waits
while there is something to be had. -/
structure Served (number : Nat) (line : List (Except Error Message)) (asked : List Nat) (x : Readers) :
    Prop where
  items : x.returned.map Prod.snd ++ x.history.session.waitingAt number = line
  once : (x.returned.map Prod.fst).Nodup
  looked : x.returned.map Prod.fst ⊆ asked
  all : x.history.session.waitingAt number ≠ [] → asked ⊆ x.returned.map Prod.fst

variable {number : Nat} {line : List (Except Error Message)} {asked : List Nat} {x : Readers}

theorem served_start (number : Nat) (h : History) :
    Served number (h.session.waitingAt number) [] { history := h } where
  items := rfl
  once := List.nodup_nil
  looked := List.nil_subset _
  all := fun _ => List.nil_subset _

/-- What happens to the session leaves the line as it is. -/
theorem Served.happens (hs : Served number line asked x) {op : Op}
    (hsame : (x.history.step op).session.waitingAt number = x.history.session.waitingAt number) :
    Served number line asked (x.step number (.happens op)) where
  items := by
    rw [step, hsame]
    exact hs.items
  once := hs.once
  looked := hs.looked
  all := by
    intro hwaiting
    rw [step, hsame] at hwaiting
    exact hs.all hwaiting

/-- A call that looks is answered with the oldest item, if there is one. -/
theorem Served.asks (hs : Served number line asked x) (call : Nat) :
    Served number line (asked ++ [call]) (x.step number (.asks call)) := by
  rw [step]
  split
  · rename_i hreturned
    refine ⟨hs.items, hs.once, List.subset_append_of_subset_left _ hs.looked, ?_⟩
    intro hwaiting
    refine List.append_subset.mpr ⟨hs.all hwaiting, ?_⟩
    intro other hmem
    exact List.mem_singleton.mp hmem ▸ hreturned
  · rename_i hwaits
    split
    · rename_i item session htaken
      have hline := waitingAt_of_takeEvent htaken
      have hcalls : (x.returned ++ [(call, item)]).map Prod.fst = x.returned.map Prod.fst ++ [call] :=
        List.map_append
      have hmore : ∀ {calls calls' : List Nat}, calls ⊆ calls' → calls ++ [call] ⊆ calls' ++ [call] :=
        fun hsubset => List.append_subset.mpr
          ⟨List.subset_append_of_subset_left _ hsubset, List.subset_append_right _ _⟩
      -- something was there, so every call that looked before has returned
      have hbefore : asked ⊆ x.returned.map Prod.fst := by
        apply hs.all
        rw [hline]
        exact List.cons_ne_nil _ _
      refine ⟨?_, ?_, ?_, ?_⟩
      · rw [← hs.items, hline, List.map_append, List.append_assoc]
        rfl
      · rw [hcalls]
        exact List.concat_eq_append ▸ hs.once.concat hwaits
      · rw [hcalls]
        exact hmore hs.looked
      · intro _
        rw [hcalls]
        exact hmore hbefore
    · rename_i hnone
      have hempty := takeEvent?_eq_none_iff.mp hnone
      exact ⟨hs.items, hs.once, List.subset_append_of_subset_left _ hs.looked,
        fun hwaiting => absurd hempty hwaiting⟩

/-- Whatever else happens, as long as it leaves the line as it is. -/
theorem Served.run {P : History → Prop} {spares : Op → Prop}
    (hkeeps : ∀ h op, P h → spares op → P (h.step op) ∧
      (h.step op).session.waitingAt number = h.session.waitingAt number)
    (htakes : ∀ h item session, P h → h.session.takeEvent? number = some (item, session) →
      P { h with session })
    (hs : Served number line asked x) (hP : P x.history) {moves : List Move}
    (hmoves : ∀ op, Move.happens op ∈ moves → spares op) :
    P (x.run number moves).history ∧
      Served number line (asked ++ asking moves) (x.run number moves) := by
  induction moves generalizing x asked with
  | nil =>
      rw [asking, List.filterMap_nil, List.append_nil]
      exact ⟨hP, hs⟩
  | cons move moves ih =>
      have hrest : ∀ op, Move.happens op ∈ moves → spares op := fun op hmem =>
        hmoves op (List.mem_cons_of_mem _ hmem)
      cases move with
      | happens op =>
          obtain ⟨hP', hsame⟩ := hkeeps x.history op hP (hmoves op (List.mem_cons_self ..))
          exact ih (hs.happens hsame) hP' hrest
      | asks call =>
          have hP' : P (x.step number (.asks call)).history := by
            rw [step]
            split
            · exact hP
            · split
              · rename_i htaken
                exact htakes _ _ _ hP htaken
              · exact hP
          have hlater := ih (hs.asks call) hP' hrest
          rw [List.append_assoc] at hlater
          exact hlater

/-- Whatever happens to the session of a closed channel. -/
theorem Served.run_of_closedAt (hs : Served number line asked x) (hclosed : x.history.ClosedAt number)
    {moves : List Move} (hmoves : ∀ op, Move.happens op ∈ moves → op.sparesEvents number) :
    (x.run number moves).history.ClosedAt number ∧
      Served number line (asked ++ asking moves) (x.run number moves) := by
  refine hs.run (P := fun h => h.ClosedAt number) ?_ ?_ hclosed hmoves
  · intro h op hclosed hspares
    exact ⟨hclosed.step hspares, waitingAt_congr (hclosed.eventsAt?_step hspares)⟩
  · intro h item session hclosed htaken
    exact hclosed.takeEvent htaken

/-- Whatever happens that puts nothing in the line. -/
theorem Served.run_of_idle (hs : Served number line asked x) {events : Bool × Mailbox Error Message}
    (hevents : x.history.session.eventsAt? number = some events) {moves : List Move}
    (hmoves : ∀ op, Move.happens op ∈ moves → op.sparesEvents number ∧ ¬ op.feedsEvents number) :
    Served number line (asked ++ asking moves) (x.run number moves) := by
  refine (hs.run (P := fun h => ∃ events, h.session.eventsAt? number = some events) ?_ ?_
    ⟨events, hevents⟩ hmoves).2
  · rintro h op ⟨events, hevents⟩ ⟨hspares, hfeeds⟩
    have hsame := History.eventsAt?_step hevents hspares hfeeds
    exact ⟨⟨events, hsame⟩, waitingAt_congr (hsame.trans hevents.symm)⟩
  · rintro h item session ⟨events, hevents⟩ htaken
    obtain ⟨line, hleft⟩ := History.eventsAt?_takeEvent hevents htaken
    exact ⟨_, hleft⟩

/-- As many calls return as there are items, or calls; so all return exactly if there are no more calls
than items. -/
structure Answered (number : Nat) (line : List (Except Error Message)) (asked : List Nat)
    (x : Readers) : Prop where
  items : x.returned.map Prod.snd ++ x.history.session.waitingAt number = line
  once : (x.returned.map Prod.fst).Nodup
  length : x.returned.length = min line.length asked.dedup.length
  all_iff : asked ⊆ x.returned.map Prod.fst ↔ asked.dedup.length ≤ line.length

theorem Served.answered (hs : Served number line asked x) : Answered number line asked x := by
  have hlength : x.returned.length + (x.history.session.waitingAt number).length = line.length := by
    rw [← hs.items, List.length_append, List.length_map]
  have hcalls : x.returned.map Prod.fst ⊆ asked.dedup := fun call hmem =>
    List.mem_dedup.mpr (hs.looked hmem)
  have hmost : x.returned.length ≤ asked.dedup.length := by
    have hle := (hs.once.subperm hcalls).length_le
    rwa [List.length_map] at hle
  have hall : asked ⊆ x.returned.map Prod.fst → asked.dedup.length ≤ x.returned.length := by
    intro hsubset
    have hle := (List.Nodup.subperm (List.nodup_dedup asked)
      fun call hmem => hsubset (List.mem_dedup.mp hmem)).length_le
    rwa [List.length_map] at hle
  -- either nothing waits, and each item has answered a call, or every call has returned
  refine ⟨hs.items, hs.once, ?_, ?_, ?_⟩
  · cases hwaiting : x.history.session.waitingAt number with
    | nil =>
        rw [hwaiting, List.length_nil] at hlength
        omega
    | cons item rest =>
        have hsubset := hs.all (hwaiting ▸ List.cons_ne_nil item rest)
        have hleast := hall hsubset
        omega
  · intro hsubset
    have hleast := hall hsubset
    omega
  · intro hfew
    cases hwaiting : x.history.session.waitingAt number with
    | nil =>
        rw [hwaiting, List.length_nil] at hlength
        have hperm := (hs.once.subperm hcalls).perm_of_length_le (by rw [List.length_map]; omega)
        exact fun call hmem => hperm.mem_iff.mpr (List.mem_dedup.mpr hmem)
    | cons item rest => exact hs.all (hwaiting ▸ List.cons_ne_nil item rest)

end Readers

/-! ## Waits -/

section nextEvent

variable {s : Session} {number : Nat} {t : TimedNetwork}

/-- Where something waits, the call returns at once. -/
theorem nextEvent_of_waiting (hsession : t.state.session? = some s) {item : Except Error Message}
    {rest : List (Except Error Message)} (hwaiting : s.waitingAt number = item :: rest)
    (limit? : Option Nat) : (t.nextEvent number limit?).1 = some item := by
  have htake : ∃ n, TimedNetwork.fromSession (fun s => s.takeEvent? number) t.state =
      some (item, n) := by
    simp only [TimedNetwork.fromSession, hsession, takeEvent?_eq, hwaiting]
    exact ⟨_, rfl⟩
  obtain ⟨n, htake⟩ := htake
  cases limit? with
  | none => simp only [TimedNetwork.nextEvent, TimedNetwork.awaitItem, Timed.await_of_take htake]
  | some limit => simp only [TimedNetwork.nextEvent, TimedNetwork.awaitItem, Timed.await_of_take htake]

/-- Where nothing waits and nothing comes, no wait ends with an item: one without a limit does not end,
and one with a limit ends when that has passed. -/
theorem nextEvent_of_isUnrouted (hsession : t.state.session? = some s)
    (hunrouted : s.IsUnrouted number) (hwaiting : s.waitingAt number = []) :
    (t.nextEvent number none).1 = none ∧
      ∀ limit, (t.nextEvent number (some limit)).1 =
        some (.error (.ofCause (.noEventWithin (Duration.text limit)))) := by
  have hvain : ∀ delay, (Timed.await TimedNetwork.perform
      (TimedNetwork.fromSession fun s => s.takeEvent? number) delay t).1 = none := by
    intro delay
    have hends : Timed.Ends (Network.Hosts s)
        (TimedNetwork.fromSession fun s => s.takeEvent? number) (Timed.await TimedNetwork.perform
          (TimedNetwork.fromSession fun s => s.takeEvent? number) delay t) :=
      Timed.ends_await TimedNetwork.hosts_perform _ ⟨s, hsession, .nothing⟩
    generalize Timed.await TimedNetwork.perform
      (TimedNetwork.fromSession fun s => s.takeEvent? number) delay t = result at hends
    cases hends with
    | vain hosts => rfl
    | @had n n' item agenda hosts htake =>
        obtain ⟨s', hs', hbrought⟩ := hosts
        have hsame := (eventsAt?_brought hunrouted hbrought).2
        have hempty : s'.waitingAt number = [] := (waitingAt_congr hsame).trans hwaiting
        simp only [TimedNetwork.fromSession, hs', takeEvent?_eq_none_iff.mpr hempty] at htake
        cases htake
  constructor
  · exact hvain _
  · intro limit
    have hnone := hvain (min limit (t.agenda.now + limit - t.agenda.now))
    simp only [TimedNetwork.nextEvent, TimedNetwork.awaitItem, Option.getD_some]
    generalize Timed.await TimedNetwork.perform (TimedNetwork.fromSession fun s => s.takeEvent? number)
      (min limit (t.agenda.now + limit - t.agenda.now)) t = result at hnone
    obtain ⟨item?, t'⟩ := result
    obtain rfl : item? = none := hnone
    simp only [Nat.add_sub_cancel_left, Nat.le_refl, if_true]

end nextEvent

/-! ## After the end -/

namespace History

/-- Once an open channel is closed in a run of a session, whatever happens then, the calls for its next
event are answered by what waited before and by one failure, which says that the channel is closed: of
the calls that look at the line from then on as many return as there are items, and the calls beyond that
find nothing, wait without end, or until their limit has passed.  When the connection stops instead, and
nothing comes for the channel any more, it is the same with the failure that says why it stopped.

Only calls that look are counted.  What makes a waiting call look again is outside of this: a call that
is not woken, because the one permit that is stored went to another, does not look, and does not return
although an item waits. -/
theorem calls_answered (connection : Connection) (limit? : Option Nat) (ops : List Op) {number : Nat}
    {c : ClientChannel}
    (hc : (run { session := { connection, limit? } } ops).session.channel? number = some c)
    (hopen : c.isClosed = false) :
    let h := run { session := { connection, limit? } } ops
    (∀ moves : List Readers.Move, (∀ op, .happens op ∈ moves → op.sparesEvents number) →
      let x := Readers.run number { history := h.step (.closeChannel number) } moves
      x.Answered number
        (c.unsolicited.items ++ [.error (.closing (.ofCause (.channelIsClosed c.id)))])
        (Readers.asking moves) ∧
      ∀ t : TimedNetwork, t.state.session? = some x.history.session →
        (∀ item rest, x.history.session.waitingAt number = item :: rest →
          ∀ limit?, (t.nextEvent number limit?).1 = some item) ∧
        (x.history.session.waitingAt number = [] → (t.nextEvent number none).1 = none ∧
          ∀ limit, (t.nextEvent number (some limit)).1 =
            some (.error (.ofCause (.noEventWithin (Duration.text limit)))))) ∧
    ∀ (reason : Error) (moves : List Readers.Move),
      (∀ op, .happens op ∈ moves → op.sparesEvents number ∧ ¬ op.feedsEvents number) →
      (Readers.run number { history := h.step (.stop reason) } moves).Answered number
        (c.unsolicited.items ++ [.error (.closing reason)]) (Readers.asking moves) := by
  intro h
  have hs : h.Sound := (sound_start connection limit?).run ops
  have hnodup : h.session.table.keys.Nodup :=
    nodup_table_run (h := { session := { connection, limit? } }) List.nodup_nil ops
  constructor
  · intro moves hmoves x
    have hclosed := hs.closedAt hnodup hc hopen
    have hline : (h.step (.closeChannel number)).session.waitingAt number =
        c.unsolicited.items ++ [.error (.closing (.ofCause (.channelIsClosed c.id)))] := by
      rw [step, waitingAt, eventsAt?_closeChannel hc hopen]
      rfl
    have hstart := Readers.served_start number (h.step (.closeChannel number))
    rw [hline] at hstart
    obtain ⟨hend, hserved⟩ := hstart.run_of_closedAt hclosed hmoves
    refine ⟨hserved.answered, ?_⟩
    intro t hsession
    constructor
    · intro item rest hwaiting limit?
      exact nextEvent_of_waiting hsession hwaiting limit?
    · intro hwaiting
      exact nextEvent_of_isUnrouted hsession hend.isUnrouted hwaiting
  · intro reason moves hmoves
    have hevents : (h.step (.stop reason)).session.eventsAt? number =
        some (false, c.unsolicited.fail (.closing reason)) :=
      TableHoldsOpen.eventsAt?_stop (s := { h.session with connection := h.session.connection.close })
        hs.table hnodup hc hopen reason
    have hline : (h.step (.stop reason)).session.waitingAt number =
        c.unsolicited.items ++ [.error (.closing reason)] := by
      rw [waitingAt, hevents]
      rfl
    have hstart := Readers.served_start number (h.step (.stop reason))
    rw [hline] at hstart
    exact (hstart.run_of_idle hevents hmoves).answered

/-- The name of a channel. -/
def endedChannel : ChannelId := ⟨"e", .speechSynth, (by decide : ¬ Text.trim "e" = "")⟩

/-- The failure that says that the channel is closed. -/
def endedFailure : Except Error Message := .error (.closing (.ofCause (.channelIsClosed endedChannel)))

/-- A session with the channel open. -/
def endedHistory : History :=
  run { session := { connection := { id := 0, peer := "server" } } } [.openChannel endedChannel]

/-- When two calls wait as the channel is closed, one is told so and the other is not answered. -/
theorem calls_answered_twice :
    let x := Readers.run 0 { history := endedHistory.step (.closeChannel 0) }
      [.asks 1, .happens .failRest, .asks 2]
    endedHistory.session.channel? 0 = some { id := endedChannel } ∧
      x.Answered 0 [endedFailure] [1, 2] ∧ x.returned = [(1, endedFailure)] := by
  intro x
  have hc : endedHistory.session.channel? 0 = some { id := endedChannel } := by rfl
  obtain ⟨hclosed, -⟩ :=
    calls_answered { id := 0, peer := "server" } none [.openChannel endedChannel] hc rfl
  refine ⟨hc, (hclosed [.asks 1, .happens .failRest, .asks 2] ?_).1, by rfl⟩
  intro op hmem
  simp only [List.mem_cons, List.not_mem_nil, or_false, Readers.Move.happens.injEq, reduceCtorEq,
    false_or] at hmem
  exact hmem ▸ trivial

/-- Of two calls that wait as the channel is closed, the first to look takes the failure that should
tell both.  Nor does a later call find anything: it is told that nothing waits, or waits without end. -/
theorem second_call_waits :
    let waiting := Readers.run 0 { history := endedHistory }
      [.asks 1, .asks 2, .happens (.closeChannel 0), .asks 1, .asks 2]
    let session := waiting.history.session
    (session.channel? 0).map ClientChannel.isClosed = some true ∧
      waiting.returned = [(1, endedFailure)] ∧ session.takeEvent? 0 = none ∧
      (TimedNetwork.nextEvent 0 none { state := { session? := some session } }).1 = none :=
  ⟨by rfl, by rfl, by rfl, by rfl⟩

end History

end MediaControl.Session
