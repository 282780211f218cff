import MediaControl.Proofs.Client.Channels
import MediaControl.Proofs.Simulation.Sessions

/-!
# What waits at a channel

What answers no request waits at its channel, in one line with the failures that tell of its end, for
whoever asks for the next event.  Nothing joins the line of a channel that the table does not hold, so
once a channel is closed, the line only gets shorter.

Main statements: `takeEvent?_eq_none_iff` and `takeEvent?_eq_some` (what is taken), `eventsAt?_closeChannel`
and `TableHoldsOpen.eventsAt?_stop` (what the end of a channel puts in the line), and `eventsAt?_brought`
(what leaves it as it is).
-/

set_option autoImplicit false

namespace MediaControl.Session

/-- What decides about asking a channel for its next event: whether it is closed, and what waits. -/
def eventsAt? (s : Session) (number : Nat) : Option (Bool × Mailbox Error Message) :=
  (s.channel? number).map fun c => (c.isClosed, c.unsolicited)

/-- What waits at the channel, oldest first. -/
def waitingAt (s : Session) (number : Nat) : List (Except Error Message) :=
  ((s.eventsAt? number).map fun events => events.2.items).getD []

variable {s s' : Session} {number other : Nat} {c : ClientChannel}

theorem eventsAt?_of_channel? (hc : s.channel? number = some c) :
    s.eventsAt? number = some (c.isClosed, c.unsolicited) := by
  rw [eventsAt?, hc]
  rfl

theorem waitingAt_of_channel? (hc : s.channel? number = some c) :
    s.waitingAt number = c.unsolicited.items := by
  rw [waitingAt, eventsAt?_of_channel? hc]
  rfl

theorem waitingAt_congr (h : s'.eventsAt? number = s.eventsAt? number) :
    s'.waitingAt number = s.waitingAt number := by
  rw [waitingAt, h, waitingAt]

/-! ## One channel changes -/

theorem eventsAt?_modify_of_ne (s : Session) (hne : number ≠ other)
    (f : ClientChannel → ClientChannel) :
    (s.modify number f).eventsAt? other = s.eventsAt? other := by
  rw [eventsAt?, channel?_modify, if_neg hne, eventsAt?]

/-- A change that leaves the line and the end of a channel alone. -/
theorem eventsAt?_modify (s : Session) (number : Nat) {f : ClientChannel → ClientChannel}
    (hf : ∀ c, (f c).isClosed = c.isClosed ∧ (f c).unsolicited = c.unsolicited) (other : Nat) :
    (s.modify number f).eventsAt? other = s.eventsAt? other := by
  by_cases hother : number = other
  · have hsame : ∀ c, ((f c).isClosed, (f c).unsolicited) = (c.isClosed, c.unsolicited) :=
      fun c => Prod.ext (hf c).1 (hf c).2
    rw [eventsAt?, channel?_modify, if_pos hother, Option.map_map, eventsAt?]
    exact congrFun (congrArg Option.map (funext hsame)) _
  · exact s.eventsAt?_modify_of_ne hother f

/-- The oldest item of the line is taken, if there is one. -/
theorem takeEvent?_eq (s : Session) (number : Nat) :
    s.takeEvent? number = match s.waitingAt number with
      | [] => none
      | item :: rest => some (item, s.modify number fun c => { c with unsolicited := ⟨rest⟩ }) := by
  unfold takeEvent?
  cases hc : s.channel? number with
  | none =>
      rw [waitingAt, eventsAt?, hc]
      rfl
  | some c =>
      rw [waitingAt_of_channel? hc, Option.bind_some, Mailbox.take?]
      cases c.unsolicited.items with
      | nil => rfl
      | cons item rest => rfl

theorem takeEvent?_eq_none_iff : s.takeEvent? number = none ↔ s.waitingAt number = [] := by
  rw [takeEvent?_eq]
  cases s.waitingAt number with
  | nil => exact ⟨fun _ => rfl, fun _ => rfl⟩
  | cons item rest =>
      constructor
      · intro hnone
        cases hnone
      · intro hempty
        cases hempty

/-- What is taken was the oldest item, and of its channel nothing else changes. -/
theorem takeEvent?_eq_some {item : Except Error Message}
    (h : s.takeEvent? number = some (item, s')) :
    ∃ c rest, s.channel? number = some c ∧ c.unsolicited.items = item :: rest ∧
      s'.channel? number = some { c with unsolicited := ⟨rest⟩ } := by
  unfold takeEvent? at h
  cases hc : s.channel? number with
  | none =>
      rw [hc] at h
      cases h
  | some c =>
      rw [hc, Option.bind_some, Mailbox.take?] at h
      cases hitems : c.unsolicited.items with
      | nil =>
          rw [hitems] at h
          cases h
      | cons first rest =>
          rw [hitems] at h
          cases h
          refine ⟨c, rest, rfl, hitems, ?_⟩
          rw [channel?_modify, if_pos rfl, hc]
          rfl

theorem waitingAt_of_takeEvent {item : Except Error Message}
    (h : s.takeEvent? number = some (item, s')) :
    s.waitingAt number = item :: s'.waitingAt number := by
  obtain ⟨c, rest, hc, hitems, hleft⟩ := takeEvent?_eq_some h
  rw [waitingAt_of_channel? hc, waitingAt_of_channel? hleft, hitems]

theorem channel?_endChannel (hc : s.channel? number = some c) (key : String) (reason : Error) :
    (s.endChannel number key reason).channel? number =
      some { c with unsolicited := c.unsolicited.fail (.closing reason) } := by
  show (modify { s with correlator := _ } number _).channel? number = _
  rw [channel?_modify, if_pos rfl]
  show (s.channel? number).map _ = _
  rw [hc]
  rfl

theorem eventsAt?_endChannel (hc : s.channel? number = some c) (key : String) (reason : Error) :
    (s.endChannel number key reason).eventsAt? number =
      some (c.isClosed, c.unsolicited.fail (.closing reason)) :=
  eventsAt?_of_channel? (channel?_endChannel hc key reason)

theorem eventsAt?_endChannel_of_ne (s : Session) (hne : number ≠ other) (key : String)
    (reason : Error) : (s.endChannel number key reason).eventsAt? other = s.eventsAt? other :=
  eventsAt?_modify_of_ne { s with correlator := s.correlator.failChannel key reason } hne _

/-- When an open channel is closed, the failure that says so joins its line. -/
theorem eventsAt?_closeChannel (hc : s.channel? number = some c) (hopen : c.isClosed = false) :
    (s.closeChannel number).eventsAt? number =
      some (true, c.unsolicited.fail (.closing (.ofCause (.channelIsClosed c.id)))) := by
  rw [closeChannel, hc]
  simp only [hopen, Bool.false_eq_true, if_false]
  refine eventsAt?_endChannel (c := { c with isClosed := true }) ?_ _ _
  show (s.modify number _).channel? number = _
  rw [channel?_modify, if_pos rfl, hc]
  rfl

theorem eventsAt?_closeChannel_of_ne (s : Session) (hne : number ≠ other) :
    (s.closeChannel number).eventsAt? other = s.eventsAt? other := by
  unfold closeChannel
  split
  · rfl
  · split
    · rfl
    · simp only
      rw [eventsAt?_endChannel_of_ne _ hne]
      exact s.eventsAt?_modify_of_ne hne _

/-! ## Channels that nothing comes for -/

/-- No message and no end of the connection reaches the channel: the table does not hold it. -/
def IsUnrouted (s : Session) (number : Nat) : Prop := ∀ row ∈ s.table.rows, row.2 ≠ number

theorem eventsAt?_receive (h : s.IsUnrouted number) (m : Message) :
    (s.receive m).1.eventsAt? number = s.eventsAt? number := by
  unfold receive
  cases hroute : ChannelTable.route s.table m with
  | error reason => rfl
  | ok target =>
      have hne : target ≠ number := by
        unfold ChannelTable.route at hroute
        split at hroute
        · split at hroute
          · cases hroute
          · cases hroute
        · split at hroute
          · rename_i hlookup
            cases hroute
            exact h _ (Table.mem_rows_of_get? hlookup)
          · cases hroute
      simp only [deliver]
      cases (s.correlator.handle m).2 with
      | none => rfl
      | some left =>
          simp only [notify]
          split
          · rfl
          · exact eventsAt?_modify_of_ne { s with correlator := _ } hne _

theorem eventsAt?_foldl_endChannel {rows : List (String × Nat)} (h : ∀ row ∈ rows, row.2 ≠ number)
    (reason : Error) (s : Session) :
    (rows.foldl (fun s row => s.endChannel row.2 row.1 reason) s).eventsAt? number =
      s.eventsAt? number := by
  induction rows generalizing s with
  | nil => rfl
  | cons row rows ih =>
      obtain ⟨hfirst, hrest⟩ := List.forall_mem_cons.mp h
      exact (ih hrest _).trans (s.eventsAt?_endChannel_of_ne hfirst row.1 reason)

theorem eventsAt?_stop (h : s.IsUnrouted number) (reason : Error) :
    (s.stop reason).eventsAt? number = s.eventsAt? number :=
  eventsAt?_foldl_endChannel h reason s

/-- Whatever the connection brings, it brings nothing to the channel. -/
theorem eventsAt?_brought (h : s.IsUnrouted number) (hbrought : s.Brought s') :
    s'.IsUnrouted number ∧ s'.eventsAt? number = s.eventsAt? number := by
  induction hbrought with
  | nothing => exact ⟨h, rfl⟩
  | connection _ connection ih => exact ih
  | @message s' _ m ih =>
      have htable : (s'.receive m).1.table = s'.table := (s'.receive_cases m).1.table
      refine ⟨?_, (eventsAt?_receive ih.1 m).trans ih.2⟩
      rw [IsUnrouted, htable]
      exact ih.1
  | @stop s' _ reason ih =>
      have htable : (s'.stop reason).table = s'.table := (s'.keepsChannels_stop reason).table
      refine ⟨?_, (eventsAt?_stop ih.1 reason).trans ih.2⟩
      rw [IsUnrouted, htable]
      exact ih.1

/-- An open channel has one row in the table, so when the connection stops, one failure joins its
line. -/
theorem TableHoldsOpen.eventsAt?_stop (ht : s.TableHoldsOpen) (hnodup : s.table.keys.Nodup)
    (hc : s.channel? number = some c) (hopen : c.isClosed = false) (reason : Error) :
    (s.stop reason).eventsAt? number = some (false, c.unsolicited.fail (.closing reason)) := by
  have hrow := Table.mem_rows_of_get? (ht.get?_of_channel? hc hopen)
  have hkey : ∀ key, (key, number) ∈ s.table.rows → key = c.id.key := by
    intro key hmem
    obtain ⟨c', hc', -, rfl⟩ := (ht key number).mp ((Table.mem_rows_iff hnodup).mp hmem)
    cases hc'.symm.trans (standing?_of_channel? hc)
    rfl
  -- one row leads to the channel, and the ends of the others pass its line by
  obtain ⟨before, after, hrows⟩ := List.append_of_mem hrow
  have hothers : ∀ row ∈ before ++ after, row.2 ≠ number := by
    rintro ⟨key, target⟩ hmem rfl
    have hmem' : (key, target) ∈ s.table.rows := by
      rw [hrows]
      simp only [List.mem_append, List.mem_cons] at hmem ⊢
      exact hmem.imp_right .inr
    have hsame := hkey key hmem'
    rw [Table.keys, hrows, List.map_append, List.map_cons] at hnodup
    have hfree := (List.nodup_middle.mp hnodup).notMem
    rw [← List.map_append] at hfree
    exact hfree (List.mem_map.mpr ⟨_, hmem, hsame⟩)
  rw [stop, hrows, List.foldl_append, List.foldl_cons,
    eventsAt?_foldl_endChannel fun row hmem => hothers row (List.mem_append_right _ hmem)]
  have hbefore := eventsAt?_foldl_endChannel
    (fun row hmem => hothers row (List.mem_append_left after hmem)) reason s
  rw [eventsAt?_of_channel? hc] at hbefore
  obtain ⟨c', hc', hevents⟩ := Option.map_eq_some_iff.mp hbefore
  obtain ⟨hisClosed, hunsolicited⟩ := Prod.mk.inj hevents
  rw [eventsAt?_endChannel hc', hisClosed, hunsolicited, hopen]

end MediaControl.Session
