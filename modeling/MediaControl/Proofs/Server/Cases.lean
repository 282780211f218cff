import MediaControl.Proofs.Server.History
import MediaControl.Proofs.Server.Rulings

/-!
# A server keeps to its docket

Whatever happens to a server, there is a call for exactly the requests that a handler is to answer, each
as far as its case says, and what was to be queued on account of a request is what its case says.

Main statements: `turn_work?` (what one turn of a call queues is what its case gains by it),
`Mirrors.step` and `Mirrors.run`.
-/

set_option autoImplicit false

namespace MediaControl.Server

/-! ## One call -/

namespace Case

variable {k : Case}

/-- The call on account of a request, if a handler is to answer it. -/
def work? (k : Case) : Option Work :=
  match k.ruling with
  | .refused _ => none
  | .handled channel handler => some {
      call :=
        { connection := k.connection, channel, request := k.request, handler
          gate := { isOpen := k.stage = .released, held := k.held }
          outcome := k.outcome }
      stage := k.stage }

theorem turn_of_work?_eq_none (h : k.work? = none) (t : Turn) : k.turn t = k := by
  unfold work? at h
  unfold turn
  cases hruling : k.ruling with
  | refused response => rfl
  | handled channel handler =>
      rw [hruling] at h
      cases h

@[simp] theorem connection_turn (k : Case) (t : Turn) : (k.turn t).connection = k.connection := by
  unfold turn
  repeat' split
  all_goals rfl

@[simp] theorem request_turn (k : Case) (t : Turn) : (k.turn t).request = k.request := by
  unfold turn
  repeat' split
  all_goals rfl

@[simp] theorem ruling_turn (k : Case) (t : Turn) : (k.turn t).ruling = k.ruling := by
  unfold turn
  repeat' split
  all_goals rfl

end Case

theorem stamp_stamp (channel : ChannelId) :
    Headers.stamp (Headers.stamp [] channel) channel = [channel.header] := by
  have hself : channel.header.hasName channel.header.name = true := Text.sameCaseless_refl _
  have hset : Headers.set [channel.header] channel.header =
      if channel.header.hasName channel.header.name then
        [channel.header.renamed channel.header.name]
      else [channel.header, channel.header] := rfl
  exact hset.trans (if_pos hself)

theorem connection_work? {k : Case} {w : Work} (h : k.work? = some w) :
    w.call.connection = k.connection := by
  unfold Case.work? at h
  split at h
  · cases h
  · cases h
    rfl

/-- The response that a call sends is the one that its case calls for. -/
theorem response_work? {k : Case} {w : Work} (h : k.work? = some w) :
    w.call.response = k.response := by
  unfold Case.work? at h
  split at h
  · cases h
  · rename_i channel handler hruling
    cases h
    simp only [Call.response, Case.response, hruling, Case.signed]
    cases k.outcome with
    | some given => rfl
    | none =>
        simp only [Option.getD_none, Call.breakdown, Response.new, stamp_stamp]
        rfl

/-- What one turn of a call queues is what its case gains by it. -/
theorem turn_work? {k : Case} {w : Work} (h : k.work? = some w) (t : Turn) :
    (k.turn t).work? = some (w.turn t).2 ∧
      (k.turn t).messages = k.messages ++ (w.turn t).1 := by
  have hresponse := response_work? h
  rcases k with ⟨connection, request, ruling, stage, outcome, events⟩
  cases ruling with
  | refused response => cases h
  | handled channel handler =>
      cases h
      refine ⟨?_, ?_⟩
      · -- at every stage the call and its case take the same branch
        cases t <;> cases stage <;>
          simp [Case.turn, Case.work?, Work.turn, Call.pass, Call.address, Gate.pass, Call.release,
            Gate.release, Case.held, Case.addressed]
      · cases t with
        | report e =>
            -- only an open gate lets the event pass, and nothing is held behind it
            cases stage <;>
              simp [Case.turn, Work.turn, Call.pass, Call.address, Gate.pass, Case.messages,
                Case.addressed, Case.response, Case.signed]
        | finish outcome => cases stage <;> simp [Case.turn, Work.turn, Case.messages]
        | answer =>
            cases stage with
            | ended =>
                simp only [Case.turn, Work.turn, if_true, Case.messages, hresponse, List.nil_append]
                rfl
            | _ => simp [Case.turn, Work.turn, Case.messages]
        | release =>
            -- what was held up is every event that was reported so far
            cases stage <;>
              simp [Case.turn, Work.turn, Call.release, Gate.release, Case.messages, Case.held,
                Case.addressed, Case.response, Case.signed]

/-! ## The whole server -/

/-- A server and its past are as the docket says. -/
structure Mirrors (h : History) (d : Docket) : Prop where
  lines : h.lines.length = d.connections
  gone_lt : ∀ connection, d.isGone connection = true → connection < d.connections
  isLive : ∀ connection, h.isLive connection = d.isLive connection
  channels : ChannelsAgree h.server d
  asked : h.asked = d.cases.length
  calls : ∀ n, h.calls.get? n = (d.cases[n]?).bind Case.work?
  sent : ∀ n, h.sentFor n =
    ((d.cases[n]?).map fun k => k.messages.map fun m => (k.connection, m)).getD []

theorem mirrors_start : Mirrors {} {} where
  lines := rfl
  gone_lt := by
    intro connection hgone
    cases hgone
  isLive := fun _ => rfl
  channels := fun _ => .none
  asked := rfl
  calls := fun _ => rfl
  sent := fun _ => rfl

namespace Mirrors

variable {h h' : History} {d : Docket} {server : Server} {ms : List Message}

/-- Opening and closing channels concerns the channels alone. -/
theorem withChannels (hm : Mirrors h d) {opening? : String → Option Opening}
    (ha : ChannelsAgree server { d with opening? }) :
    Mirrors { h with server } { d with opening? } :=
  ⟨hm.lines, hm.gone_lt, hm.isLive, ha, hm.asked, hm.calls, hm.sent⟩

theorem openChannel (hm : Mirrors h d) (id : ChannelId) (handlers : Handlers) :
    Mirrors (h.step (.openChannel id handlers)) (d.openChannel id handlers) := by
  have ha := hm.channels.openChannel id handlers
  have hopening : d.openChannel id handlers =
      { d with opening? := (d.openChannel id handlers).opening? } := by
    unfold Docket.openChannel
    split <;> rfl
  rw [hopening] at ha ⊢
  rw [History.step]
  cases hresult : h.server.openChannel id handlers with
  | error e =>
      rw [hresult] at ha
      exact hm.withChannels ha
  | ok server =>
      rw [hresult] at ha
      exact hm.withChannels ha

theorem openNamed (hm : Mirrors h d) (text : String) (handlers : Handlers) :
    Mirrors (h.step (.openNamed text handlers)) (d.step (.openNamed text handlers)) := by
  rw [History.step, Server.openNamed, Docket.step]
  cases ChannelId.parse text with
  | error reason => exact hm
  | ok id =>
      have hopened := hm.openChannel id handlers
      rw [History.step] at hopened
      simp only
      cases hresult : h.server.openChannel id handlers with
      | error e =>
          rw [hresult] at hopened
          exact hopened
      | ok server =>
          rw [hresult] at hopened
          exact hopened

/-- A connection that was made is live. -/
theorem connect (hm : Mirrors h d) (peer : String) (limit : Nat) :
    Mirrors (h.step (.connect peer limit)) (d.step (.connect peer limit)) where
  lines := by
    rw [History.step, Docket.step, List.length_append, hm.lines]
    rfl
  gone_lt := fun connection hgone => Nat.lt_succ_of_lt (hm.gone_lt connection hgone)
  isLive := by
    intro connection
    have hsame := hm.isLive connection
    unfold History.isLive Docket.isLive at hsame ⊢
    simp only [History.step, Docket.step]
    rcases Nat.lt_trichotomy connection h.lines.length with hlt | rfl | hgt
    · rw [List.getElem?_append_left hlt, hsame]
      rw [hm.lines] at hlt
      simp [hlt, Nat.lt_succ_of_lt hlt]
    · have hstays : d.isGone d.connections = false := by
        rw [← Bool.not_eq_true]
        exact fun hgone => Nat.lt_irrefl _ (hm.gone_lt _ hgone)
      simp [hstays, hm.lines]
    · rw [List.getElem?_eq_none (by simp; omega)]
      rw [hm.lines] at hgt
      simp [Nat.not_lt.mpr (Nat.succ_le_of_lt hgt)]
  channels := hm.channels
  asked := hm.asked
  calls := hm.calls
  sent := hm.sent

/-- Writing to a connection and closing it changes neither channels nor calls. -/
theorem modifyLine (hm : Mirrors h d) {f : Line → Line}
    (hreading : ∀ l, (f l).connection.reading = l.connection.reading) (connection : Nat) :
    Mirrors { h with lines := h.lines.modify connection f } d where
  lines := (List.length_modify ..).trans hm.lines
  gone_lt := hm.gone_lt
  isLive := by
    intro other
    rw [← hm.isLive other]
    unfold History.isLive
    rw [List.getElem?_modify]
    cases h.lines[other]? with
    | none => rfl
    | some l =>
        by_cases hother : connection = other
        · simp [hother, hreading]
        · simp [hother]
  channels := hm.channels
  asked := hm.asked
  calls := hm.calls
  sent := hm.sent

/-- A connection that is gone is gone for the docket as well. -/
theorem disconnect (hm : Mirrors h d) (connection : Nat) :
    Mirrors (h.step (.disconnect connection)) (d.step (.disconnect connection)) := by
  have hlive := hm.isLive connection
  rw [History.step, Docket.step, hlive]
  cases hcase : d.isLive connection with
  | false => exact hm
  | true =>
      simp only [if_true]
      unfold Docket.isLive at hcase
      simp only [Bool.and_eq_true, decide_eq_true_eq] at hcase
      refine ⟨(List.length_modify ..).trans hm.lines, ?_, ?_, hm.channels.disconnect connection,
        hm.asked, hm.calls, hm.sent⟩
      · intro other hgone
        simp only [Bool.or_eq_true, decide_eq_true_eq] at hgone
        rcases hgone with rfl | hgone
        · exact hcase.1
        · exact hm.gone_lt other hgone
      · intro other
        have hsame := hm.isLive other
        unfold History.isLive Docket.isLive at hsame ⊢
        simp only [List.getElem?_modify]
        by_cases hother : connection = other
        · cases h.lines[other]? <;> simp [hother, Line.stop]
        · simpa [hother, Ne.symm hother] using hsame

/-! ## Requests and calls -/

theorem ignore (hm : Mirrors h d) (connection : Nat) {m : Message} (hrequest : ∀ r, m ≠ .request r) :
    Mirrors (h.take connection m) d := by
  obtain ⟨hverdict, hafter⟩ := hm.channels.receive_of_not_request connection hrequest
  unfold History.take
  simp only [hverdict]
  exact hm.withChannels hafter

theorem getElem?_enter (d : Docket) (connection : Nat) (r : Request) (n : Nat) :
    (d.enter connection r).cases[n]? =
      if n = d.cases.length then some (.start connection r (d.rule connection r))
      else d.cases[n]? := by
  rw [Docket.enter]
  split
  · rename_i hlast
    rw [hlast, List.getElem?_concat_length]
  · rename_i hother
    rcases Nat.lt_or_gt_of_ne hother with hlt | hgt
    · exact List.getElem?_append_left hlt
    · rw [List.getElem?_eq_none (Nat.le_of_lt hgt), List.getElem?_eq_none]
      rw [List.length_append, List.length_singleton]
      exact hgt

/-- Nothing has happened yet on account of a request that comes in. -/
theorem sentFor_asked (hm : Mirrors h d) : h.sentFor h.asked = [] := by
  rw [hm.sent, hm.asked, List.getElem?_eq_none (Nat.le_refl _)]
  rfl

theorem calls_asked (hm : Mirrors h d) : h.calls.get? h.asked = none := by
  rw [hm.calls, hm.asked, List.getElem?_eq_none (Nat.le_refl _)]
  rfl

/-- A server that makes of a request what the ruling says keeps to its docket. -/
theorem enter_of_eq (hm : Mirrors h d) {connection : Nat} {r : Request}
    (hchannels : ChannelsAgree h'.server (d.enter connection r))
    (hlength : h'.lines.length = h.lines.length) (hlive : ∀ other, h'.isLive other = h.isLive other)
    (hasked : h'.asked = h.asked + 1)
    (hcalls : ∀ n, h'.calls.get? n =
      if n = h.asked then (Case.start connection r (d.rule connection r)).work?
      else h.calls.get? n)
    (hsent : ∀ n, h'.sentFor n = h.sentFor n ++
      if n = h.asked then
        (Case.start connection r (d.rule connection r)).messages.map fun m => (connection, m)
      else []) : Mirrors h' (d.enter connection r) where
  lines := hlength.trans hm.lines
  gone_lt := hm.gone_lt
  isLive := fun other => (hlive other).trans (hm.isLive other)
  channels := hchannels
  asked := by
    rw [hasked, hm.asked, Docket.enter, List.length_append]
    rfl
  calls := by
    intro n
    rw [hcalls, getElem?_enter, hm.calls, hm.asked]
    split <;> rfl
  sent := by
    intro n
    rw [hsent, getElem?_enter, ← hm.asked]
    split
    · rename_i hlast
      rw [hlast, hm.sentFor_asked]
      rfl
    · rw [List.append_nil, hm.sent]

/-- A request comes in: it is refused, or a call is made of it. -/
theorem enter (hm : Mirrors h d) {connection : Nat} (hlive : d.isLive connection = true)
    (r : Request) : Mirrors (h.take connection (.request r)) (d.enter connection r) := by
  have hstays : d.isGone connection = false := by
    unfold Docket.isLive at hlive
    simp only [Bool.and_eq_true, Bool.not_eq_true'] at hlive
    exact hlive.2
  obtain ⟨hverdict, hafter⟩ := hm.channels.receive hstays r
  unfold History.take
  simp only [hverdict]
  cases hruling : d.rule connection r with
  | refused response =>
      simp only [Ruling.verdict]
      have hposted := History.posted_post
        { h with server := (h.server.receive connection (.request r)).1, asked := h.asked + 1 }
        h.asked connection (.response response)
      refine hm.enter_of_eq (hposted.server ▸ hafter) hposted.length hposted.isLive hposted.asked
        ?_ ?_
      · intro n
        rw [hposted.calls, hruling]
        split
        · rename_i hlast
          rw [hlast]
          exact hm.calls_asked
        · rfl
      · intro n
        rw [hposted.sentFor, hruling]
        rfl
  | handled channel handler =>
      simp only [Ruling.verdict]
      refine hm.enter_of_eq hafter rfl (fun _ => rfl) rfl ?_ ?_
      · intro n
        rw [hruling]
        exact Table.get?_insert ..
      · intro n
        rw [hruling]
        split <;> exact (List.append_nil _).symm

theorem getElem?_turn (d : Docket) (n : Nat) (t : Turn) (other : Nat) :
    (d.step (.turn n t)).cases[other]? =
      if n = other then (d.cases[other]?).map fun k => k.turn t else d.cases[other]? := by
  rw [Docket.step, List.getElem?_modify]
  split
  · rfl
  · simp

/-- Nothing happens to a request for which there is no call. -/
theorem step_turn_of_idle (hm : Mirrors h d) {n : Nat} (hidle : h.calls.get? n = none) (t : Turn) :
    d.step (.turn n t) = d := by
  have hcall := hm.calls n
  rw [hidle] at hcall
  have hcases : (d.step (.turn n t)).cases = d.cases := by
    refine List.ext_getElem? ?_
    intro other
    rw [getElem?_turn]
    split
    · rename_i hother
      subst hother
      cases hk : d.cases[n]? with
      | none => rfl
      | some k =>
          rw [hk, Option.bind_some] at hcall
          rw [Option.map_some, Case.turn_of_work?_eq_none hcall.symm]
    · rfl
  exact congrArg (fun cases => { d with cases }) hcases

/-- A call has its turn. -/
theorem turn_of_call (hm : Mirrors h d) {n : Nat} {w : Work} (hget : h.calls.get? n = some w)
    (t : Turn) : Mirrors (h.step (.turn n t)) (d.step (.turn n t)) := by
  have hcall := hm.calls n
  rw [hget] at hcall
  obtain ⟨k, hk, hwork⟩ := Option.bind_eq_some_iff.mp hcall.symm
  obtain ⟨hwork', hmessages⟩ := turn_work? hwork t
  have hlength := d.length_cases_turn n t
  rw [History.step, hget]
  simp only
  have hposted := History.posted_postAll { h with calls := h.calls.insert n (w.turn t).2 } n
    (w.turn t).2.call.connection (w.turn t).1
  have hself : ∀ other : Nat, (d.step (.turn n t)).cases[other]? =
      if other = n then some (k.turn t) else d.cases[other]? := by
    intro other
    rw [getElem?_turn]
    by_cases hother : other = n
    · rw [if_pos hother, if_pos hother.symm, hother, hk, Option.map_some]
    · rw [if_neg hother, if_neg (Ne.symm hother)]
  have hserver : ChannelsAgree _ d := hposted.server ▸ hm.channels
  refine ⟨hposted.length.trans hm.lines, hm.gone_lt, ?_, hserver,
    hposted.asked.trans (hm.asked.trans hlength.symm), ?_, ?_⟩
  · intro other
    exact (hposted.isLive other).trans (hm.isLive other)
  · intro other
    rw [hposted.calls, Table.get?_insert, hself]
    split
    · exact hwork'.symm
    · exact hm.calls other
  · intro other
    rw [hposted.sentFor, hself]
    by_cases hother : other = n
    · have hbefore : h.sentFor n = k.messages.map fun m => (k.connection, m) := by
        rw [hm.sent, hk]
        rfl
      rw [if_pos hother, if_pos hother, Option.map_some, Option.getD_some, hmessages,
        List.map_append, connection_work? hwork', Case.connection_turn, hother]
      exact congrArg (· ++ _) hbefore
    · rw [if_neg hother, if_neg hother, List.append_nil]
      exact hm.sent other

theorem turn (hm : Mirrors h d) (n : Nat) (t : Turn) :
    Mirrors (h.step (.turn n t)) (d.step (.turn n t)) := by
  cases hget : h.calls.get? n with
  | none =>
      rw [hm.step_turn_of_idle hget, History.step, hget]
      exact hm
  | some w => exact hm.turn_of_call hget t

theorem step (hm : Mirrors h d) (op : Op) : Mirrors (h.step op) (d.step op) := by
  cases op with
  | openChannel id handlers => exact hm.openChannel id handlers
  | openNamed text handlers => exact hm.openNamed text handlers
  | close id => exact hm.withChannels (hm.channels.close id)
  | connect peer limit => exact hm.connect peer limit
  | receive connection m =>
      have hlive := hm.isLive connection
      rw [History.step, hlive]
      cases hcase : d.isLive connection with
      | false =>
          cases m <;> simp only [Docket.step, hcase, Bool.false_eq_true, if_false] <;> exact hm
      | true =>
          simp only [if_true]
          cases m with
          | request r =>
              simp only [Docket.step, hcase, if_true]
              exact hm.enter hcase r
          | response r => exact hm.ignore connection fun _ => Message.noConfusion
          | event e => exact hm.ignore connection fun _ => Message.noConfusion
  | drain connection => exact hm.modifyLine Line.reading_drain connection
  | shut connection => exact hm.modifyLine Line.reading_shut connection
  | disconnect connection => exact hm.disconnect connection
  | turn n t => exact hm.turn n t

theorem run (hm : Mirrors h d) (ops : List Op) : Mirrors (h.run ops) (d.run ops) := by
  induction ops generalizing h d with
  | nil => exact hm
  | cons op ops ih => exact ih (hm.step op)

end Mirrors

end MediaControl.Server
