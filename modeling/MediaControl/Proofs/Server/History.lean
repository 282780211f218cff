import MediaControl.Connection
import MediaControl.Proofs.Server.Docket
import MediaControl.Proofs.Table

/-!
# Histories of a server

A history follows a server, its connections and the calls of its handlers through whatever happens, and
keeps what they themselves forget: which request each message was queued for, and which messages were
written.

Main statements: `posted_postAll` (what queueing messages changes) and `Faithful.run` (what is logged as
queued on a connection is what the connection has taken).
-/

set_option autoImplicit false

namespace MediaControl.Server

/-- A call, and how far it has come. -/
structure Work where
  call : Call
  stage : Stage := .working

/-- One turn of a call: what is to be queued, and the call then. -/
def Work.turn (w : Work) : Turn → List Message × Work
  | .report e =>
    let (passing, call) := w.call.pass e
    (passing.toList.map .event, { w with call })
  | .finish outcome =>
    if w.stage = .working then ([], { call := { w.call with outcome }, stage := .ended })
    else ([], w)
  | .answer =>
    if w.stage = .ended then ([.response w.call.response], { w with stage := .answered })
    else ([], w)
  | .release =>
    if w.stage = .answered then
      let (passing, call) := w.call.release
      (passing.map .event, { call, stage := .released })
    else ([], w)

/-- A message that was to be queued. -/
structure Sending where
  /-- the request on whose account it was -/
  cause : Nat
  connection : Nat
  message : Message
  /-- the connection took it -/
  isQueued : Bool

/-- A connection and the messages that were written to it. -/
structure Line where
  connection : Connection
  /-- oldest first -/
  written : List Message := []

namespace Line

/-- Queues a message, if the connection takes it. -/
def send? (l : Line) (m : Message) : Option Line :=
  match l.connection.send m with
  | .ok connection => some { l with connection }
  | .error _ => none

/-- Writes the oldest message that is queued. -/
def drain (l : Line) : Line :=
  match l.connection.outbound with
  | [] => l
  | m :: rest =>
    { connection := { l.connection with outbound := rest }, written := l.written ++ [m] }

/-- Nothing can be queued any more. -/
def shut (l : Line) : Line := { l with connection := l.connection.close }

/-- Nothing comes in any more. -/
def stop (l : Line) : Line :=
  { l with connection := { l.connection.close with reading := false } }

/-- Every message that was ever queued, oldest first. -/
def queued (l : Line) : List Message := l.written ++ l.connection.outbound

end Line

/-- A server with its connections and calls, and their past. -/
structure History where
  server : Server := {}
  /-- the connections, by number -/
  lines : List Line := []
  /-- the calls, by the number of their request -/
  calls : Table Nat Work := {}
  /-- how many requests came in -/
  asked : Nat := 0
  /-- what was to be queued, oldest first -/
  sent : List Sending := []

namespace History

/-- Messages come in on the connection. -/
def isLive (h : History) (connection : Nat) : Bool :=
  (h.lines[connection]?).any fun l => l.connection.reading

/-- Queues a message, if its connection takes it. -/
def post (h : History) (cause connection : Nat) (m : Message) : History :=
  let line? := (h.lines[connection]?).bind fun l => l.send? m
  { h with
    lines := match line? with
      | some l => h.lines.set connection l
      | none => h.lines
    sent := h.sent ++ [{ cause, connection, message := m, isQueued := line?.isSome }] }

/-- Queues messages, first to last. -/
def postAll (h : History) (cause connection : Nat) (ms : List Message) : History :=
  ms.foldl (fun h m => h.post cause connection m) h

/-- A message comes in on a connection. -/
def take (h : History) (connection : Nat) (m : Message) : History :=
  let (server, verdict) := h.server.receive connection m
  let h := { h with server }
  match verdict with
  | .ignored => h
  | .rejected response =>
    { h with asked := h.asked + 1 }.post h.asked connection (.response response)
  | .accepted call =>
    { h with asked := h.asked + 1, calls := h.calls.insert h.asked { call } }

/-- One thing that happens. -/
def step (h : History) : Op → History
  | .openChannel id handlers =>
    match h.server.openChannel id handlers with
    | .ok server => { h with server }
    | .error _ => h
  | .openNamed text handlers =>
    match h.server.openNamed text handlers with
    | .ok (_, server) => { h with server }
    | .error _ => h
  | .close id => { h with server := h.server.close id }
  | .connect peer limit =>
    { h with lines := h.lines ++ [{ connection := { id := h.lines.length, peer, limit } }] }
  | .receive connection m => if h.isLive connection then h.take connection m else h
  | .drain connection => { h with lines := h.lines.modify connection Line.drain }
  | .shut connection => { h with lines := h.lines.modify connection Line.shut }
  | .disconnect connection =>
    if h.isLive connection then
      { h with
        server := h.server.disconnect connection
        lines := h.lines.modify connection Line.stop }
    else h
  | .turn request t =>
    match h.calls.get? request with
    | none => h
    | some w =>
      let (ms, w) := w.turn t
      { h with calls := h.calls.insert request w }.postAll request w.call.connection ms

/-- What happens, first to last. -/
def run (h : History) (ops : List Op) : History := ops.foldl step h

/-- What was to be queued on account of a request: the messages and their connections, oldest
first. -/
def sentFor (h : History) (request : Nat) : List (Nat × Message) :=
  (h.sent.filter fun s => s.cause = request).map fun s => (s.connection, s.message)

/-- What was queued on account of a request, oldest first. -/
def queuedFor (h : History) (request : Nat) : List Message :=
  (h.sent.filter fun s => s.cause = request && s.isQueued).map Sending.message

/-- What a connection has taken, oldest first. -/
def queuedOn (h : History) (connection : Nat) : List Message :=
  ((h.lines[connection]?).map Line.queued).getD []

/-- What is logged as queued on a connection, oldest first. -/
def loggedOn (h : History) (connection : Nat) : List Message :=
  (h.sent.filter fun s => s.connection = connection && s.isQueued).map Sending.message

/-- What is logged as queued on a connection is what the connection has taken. -/
def Faithful (h : History) : Prop := ∀ connection, h.loggedOn connection = h.queuedOn connection

theorem faithful_start : Faithful {} := fun _ => rfl

end History

/-! ## Queues -/

namespace Line

variable {l l' : Line} {m : Message}

theorem send?_eq (l : Line) (m : Message) :
    l.send? m =
      if l.connection.closed then none
      else some { l with connection := { l.connection with outbound := l.connection.outbound ++ [m] } } := by
  unfold send? Connection.send
  by_cases hclosed : l.connection.closed = true
  · simp only [if_pos hclosed]
  · simp only [if_neg hclosed]

theorem of_send?_eq_some (h : l.send? m = some l') :
    l'.queued = l.queued ++ [m] ∧ l'.connection.reading = l.connection.reading := by
  rw [send?_eq] at h
  split at h
  · cases h
  · cases h
    exact ⟨(List.append_assoc ..).symm, rfl⟩

@[simp] theorem queued_drain (l : Line) : l.drain.queued = l.queued := by
  unfold drain queued
  cases houtbound : l.connection.outbound with
  | nil => simp [houtbound]
  | cons m rest => simp

@[simp] theorem queued_shut (l : Line) : l.shut.queued = l.queued := rfl

@[simp] theorem queued_stop (l : Line) : l.stop.queued = l.queued := rfl

@[simp] theorem reading_shut (l : Line) : l.shut.connection.reading = l.connection.reading := rfl

@[simp] theorem reading_drain (l : Line) :
    l.drain.connection.reading = l.connection.reading := by
  unfold drain
  split <;> rfl

end Line

namespace History

variable {h h' : History} {cause connection : Nat} {ms : List Message}

/-! ## Posting -/

/-- What queueing messages changes: they are logged, for their request and their connection, and the
queue of the connection may have grown; messages come in as before. -/
structure Posted (h h' : History) (cause connection : Nat) (ms : List Message) : Prop where
  server : h'.server = h.server
  calls : h'.calls = h.calls
  asked : h'.asked = h.asked
  length : h'.lines.length = h.lines.length
  isLive : ∀ other, h'.isLive other = h.isLive other
  sentFor : ∀ request, h'.sentFor request =
    h.sentFor request ++ if request = cause then ms.map fun m => (connection, m) else []
  cause : ∀ s ∈ h'.sent, s ∈ h.sent ∨ s.cause = cause
  faithful : h.Faithful → h'.Faithful

theorem Posted.nil (h : History) (cause connection : Nat) : Posted h h cause connection [] where
  server := rfl
  calls := rfl
  asked := rfl
  length := rfl
  isLive := fun _ => rfl
  sentFor := by
    intro request
    split <;> exact (List.append_nil _).symm
  cause := fun _ hs => .inl hs
  faithful := id

theorem Posted.append {h₁ h₂ h₃ : History} {ms₁ ms₂ : List Message}
    (hfirst : Posted h₁ h₂ cause connection ms₁) (hrest : Posted h₂ h₃ cause connection ms₂) :
    Posted h₁ h₃ cause connection (ms₁ ++ ms₂) where
  server := hrest.server.trans hfirst.server
  calls := hrest.calls.trans hfirst.calls
  asked := hrest.asked.trans hfirst.asked
  length := hrest.length.trans hfirst.length
  isLive := fun other => (hrest.isLive other).trans (hfirst.isLive other)
  sentFor := by
    intro request
    rw [hrest.sentFor, hfirst.sentFor, List.append_assoc]
    split
    · rw [List.map_append]
    · rfl
  cause := by
    intro s hs
    rcases hrest.cause s hs with hs | hs
    · exact hfirst.cause s hs
    · exact .inr hs
  faithful := fun hfaithful => hrest.faithful (hfirst.faithful hfaithful)

/-- The queue of a connection has taken a message, or has not. -/
theorem post_cases (h : History) (cause connection : Nat) (m : Message) :
    (∃ l l', h.lines[connection]? = some l ∧ l.send? m = some l' ∧
      h.post cause connection m =
        { h with
          lines := h.lines.set connection l'
          sent := h.sent ++ [⟨cause, connection, m, true⟩] }) ∨
    h.post cause connection m = { h with sent := h.sent ++ [⟨cause, connection, m, false⟩] } := by
  unfold post
  cases hline : (h.lines[connection]?).bind fun l => l.send? m with
  | none => exact .inr rfl
  | some l' =>
      obtain ⟨l, hl, hsend⟩ := Option.bind_eq_some_iff.mp hline
      exact .inl ⟨l, l', hl, hsend, rfl⟩

theorem loggedOn_append (h : History) (s : Sending) (lines : List Line) (other : Nat) :
    loggedOn { h with lines, sent := h.sent ++ [s] } other =
      h.loggedOn other ++ if s.connection = other ∧ s.isQueued = true then [s.message] else [] := by
  by_cases hs : s.connection = other ∧ s.isQueued = true
  · simp [loggedOn, hs]
  · rw [if_neg hs]
    have hnone : (decide (s.connection = other) && s.isQueued) = false := by
      simpa using hs
    simp [loggedOn, hnone]

theorem posted_post (h : History) (cause connection : Nat) (m : Message) :
    Posted h (h.post cause connection m) cause connection [m] := by
  have hsentFor : ∀ (lines : List Line) (isQueued : Bool) (request : Nat),
      sentFor { h with lines, sent := h.sent ++ [⟨cause, connection, m, isQueued⟩] } request =
        h.sentFor request ++ if request = cause then [(connection, m)] else [] := by
    intro lines isQueued request
    by_cases hrequest : request = cause
    · simp [sentFor, hrequest]
    · simp [sentFor, hrequest, Ne.symm hrequest]
  have hcause : ∀ (isQueued : Bool), ∀ s ∈ h.sent ++ [⟨cause, connection, m, isQueued⟩],
      s ∈ h.sent ∨ s.cause = cause := by
    intro isQueued s hs
    rcases List.mem_append.mp hs with hs | hs
    · exact .inl hs
    · rw [List.mem_singleton.mp hs]
      exact .inr rfl
  rcases h.post_cases cause connection m with ⟨l, l', hl, hsend, hpost⟩ | hpost
  · obtain ⟨hqueued, hreading⟩ := Line.of_send?_eq_some hsend
    have hlt : connection < h.lines.length := (List.getElem?_eq_some_iff.mp hl).1
    rw [hpost]
    refine ⟨rfl, rfl, rfl, List.length_set, ?_, hsentFor _ _, hcause _, ?_⟩
    · intro other
      unfold isLive
      by_cases hother : connection = other
      · subst hother
        rw [List.getElem?_set_self hlt, hl, Option.any_some, Option.any_some, hreading]
      · rw [List.getElem?_set_ne hother]
    · intro hfaithful other
      rw [loggedOn_append, hfaithful, queuedOn, queuedOn]
      by_cases hother : connection = other
      · subst hother
        rw [List.getElem?_set_self hlt, hl]
        simp [hqueued]
      · rw [List.getElem?_set_ne hother, if_neg fun hboth => hother hboth.1, List.append_nil]
  · rw [hpost]
    refine ⟨rfl, rfl, rfl, rfl, fun _ => rfl, hsentFor _ _, hcause _, ?_⟩
    intro hfaithful other
    rw [loggedOn_append, hfaithful, if_neg fun hboth => Bool.noConfusion hboth.2, List.append_nil]
    rfl

theorem posted_postAll (h : History) (cause connection : Nat) (ms : List Message) :
    Posted h (h.postAll cause connection ms) cause connection ms := by
  induction ms generalizing h with
  | nil => exact .nil h cause connection
  | cons m ms ih => exact (h.posted_post cause connection m).append (ih _)

theorem length_lines_take (h : History) (connection : Nat) (m : Message) :
    (h.take connection m).lines.length = h.lines.length := by
  unfold History.take
  simp only
  cases (h.server.receive connection m).2 with
  | ignored => rfl
  | rejected response => exact (posted_post _ _ _ _).length
  | accepted call => rfl

/-- There are as many connections as were made. -/
theorem length_lines_step (h : History) {op : Op} (hop : ∀ peer limit, op ≠ .connect peer limit) :
    (h.step op).lines.length = h.lines.length := by
  cases op with
  | openChannel id handlers =>
      rw [History.step]
      split <;> rfl
  | openNamed text handlers =>
      rw [History.step]
      split <;> rfl
  | close id => rfl
  | connect peer limit => exact absurd rfl (hop peer limit)
  | receive connection m =>
      rw [History.step]
      split
      · exact h.length_lines_take connection m
      · rfl
  | drain connection => exact List.length_modify ..
  | shut connection => exact List.length_modify ..
  | disconnect connection =>
      rw [History.step]
      split
      · exact List.length_modify ..
      · rfl
  | turn request t =>
      rw [History.step]
      split
      · rfl
      · exact (posted_postAll _ _ _ _).length

/-- A call has its turn, and no other changes. -/
theorem get?_calls_turn (h : History) (n : Nat) (t : Turn) (other : Nat) :
    (h.step (.turn n t)).calls.get? other =
      if other = n then (h.calls.get? n).map fun w => (w.turn t).2 else h.calls.get? other := by
  rw [History.step]
  cases hcall : h.calls.get? n with
  | none =>
      by_cases hother : other = n
      · simp only [hother, hcall, if_true, Option.map_none]
      · simp only [if_neg hother]
  | some w =>
      simp only
      rw [(posted_postAll _ _ _ _).calls]
      exact Table.get?_insert ..

/-! ## What is logged as queued -/

theorem Faithful.of_eq (hf : h.Faithful) (hlines : h'.lines = h.lines) (hsent : h'.sent = h.sent) :
    h'.Faithful := by
  intro connection
  rw [loggedOn, hsent, queuedOn, hlines]
  exact hf connection

/-- A connection may write what is queued, or close. -/
theorem Faithful.modify (hf : h.Faithful) {f : Line → Line} (hsame : ∀ l, (f l).queued = l.queued)
    (connection : Nat) : Faithful { h with lines := h.lines.modify connection f } := by
  intro other
  have hlogged : loggedOn { h with lines := h.lines.modify connection f } other = _ := hf other
  rw [hlogged, queuedOn, queuedOn, List.getElem?_modify]
  cases h.lines[other]? with
  | none => rfl
  | some l =>
      by_cases hother : connection = other
      · simp [hother, hsame]
      · simp [hother]

theorem Faithful.take (hf : h.Faithful) (connection : Nat) (m : Message) :
    (h.take connection m).Faithful := by
  unfold History.take
  simp only
  cases (h.server.receive connection m).2 with
  | ignored => exact hf.of_eq rfl rfl
  | rejected response =>
      refine (posted_post _ _ _ _).faithful ?_
      exact hf.of_eq rfl rfl
  | accepted call => exact hf.of_eq rfl rfl

theorem Faithful.step (hf : h.Faithful) (op : Op) : (h.step op).Faithful := by
  cases op with
  | openChannel id handlers =>
      rw [History.step]
      split
      · exact hf.of_eq rfl rfl
      · exact hf
  | openNamed text handlers =>
      rw [History.step]
      split
      · exact hf.of_eq rfl rfl
      · exact hf
  | close id => exact hf.of_eq rfl rfl
  | connect peer limit =>
      intro other
      have hlogged : (h.step (.connect peer limit)).loggedOn other = _ := hf other
      rw [hlogged, queuedOn, queuedOn]
      rcases Nat.lt_trichotomy other h.lines.length with hlt | rfl | hgt
      · simp only [History.step, List.getElem?_append_left hlt]
      · simp [History.step, Line.queued]
      · rw [List.getElem?_eq_none (Nat.le_of_lt hgt), List.getElem?_eq_none]
        simp only [History.step, List.length_append, List.length_singleton]
        omega
  | receive connection m =>
      rw [History.step]
      split
      · exact hf.take connection m
      · exact hf
  | drain connection => exact hf.modify Line.queued_drain connection
  | shut connection => exact hf.modify Line.queued_shut connection
  | disconnect connection =>
      rw [History.step]
      split
      · have hstopped : Faithful { h with lines := h.lines.modify connection Line.stop } :=
          hf.modify Line.queued_stop connection
        exact hstopped.of_eq rfl rfl
      · exact hf
  | turn request t =>
      rw [History.step]
      split
      · exact hf
      · refine (posted_postAll _ _ _ _).faithful ?_
        exact hf.of_eq rfl rfl

theorem Faithful.run (hf : h.Faithful) (ops : List Op) : (h.run ops).Faithful := by
  induction ops generalizing h with
  | nil => exact hf
  | cons op ops ih => exact ih (hf.step op)

end History

end MediaControl.Server
