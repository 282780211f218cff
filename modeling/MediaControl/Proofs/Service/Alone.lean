import MediaControl.Proofs.Service.Stream

/-!
# A connection by itself

What the docket of a service says of one connection is what it would say if the requests of the
connection were all that ever came in: the ids that passed on the other connections, and the requests
on them, do not come into any ruling on it.  So is what a handler makes of a request, which goes by the
request and the ruling alone.

Main statements: `Apart.step` and `Apart.at_rest` (what has been queued for the requests of a
connection when no step is left).
-/

set_option autoImplicit false

namespace MediaControl

open MediaControl.Wire

namespace Server

/-! ## Likenesses -/

/-- The channels are alike but for the ids that passed on other connections. -/
structure Opening.Like (connection : Nat) (o p : Opening) : Prop where
  id : o.id = p.id
  handlers : o.handlers = p.handlers
  passed : o.passed connection = p.passed connection

namespace Opening.Like

variable {connection : Nat} {o p : Opening}

theorem admits (h : Like connection o p) (id : Nat) :
    o.admits connection id = p.admits connection id := by
  rw [Opening.admits, Opening.admits, h.passed]

theorem rule (h : Like connection o p) (named : ChannelId) (r : Request) :
    o.rule connection named r = p.rule connection named r := by
  simp only [Opening.rule, h.admits, h.id, h.handlers]

/-- They let the same ids pass on it. -/
theorem pass (h : Like connection o p) (id : Nat) :
    Like connection (o.pass connection id) (p.pass connection id) := by
  refine ⟨?_, ?_, ?_⟩
  · rw [Opening.id_pass, Opening.id_pass, h.id]
  · rw [Opening.handlers_pass, Opening.handlers_pass, h.handlers]
  · rw [Opening.pass, Opening.pass, h.admits]
    split
    · simp only [if_true, h.passed]
    · exact h.passed

/-- An id that passes on another connection makes no difference. -/
theorem pass_other (h : Like connection o p) {other : Nat} (hother : other ≠ connection) (id : Nat) :
    Like connection (o.pass other id) p := by
  refine ⟨?_, ?_, ?_⟩
  · rw [Opening.id_pass, h.id]
  · rw [Opening.handlers_pass, h.handlers]
  · rw [Opening.pass]
    split
    · simp only [if_neg (Ne.symm hother), h.passed]
    · exact h.passed

end Opening.Like

theorem Opening.Like.map {connection : Nat} {o? p? : Option Opening}
    (h : Option.Rel (Like connection) o? p?) {f g : Opening → Opening}
    (hf : ∀ o p, Like connection o p → Like connection (f o) (g p)) :
    Option.Rel (Like connection) (o?.map f) (p?.map g) := by
  cases h with
  | none => exact .none
  | some hlike => exact .some (hf _ _ hlike)

/-- What the one docket says of a connection is all that the other says. -/
structure Docket.Alike (connection : Nat) (d e : Docket) : Prop where
  opening : ∀ key, Option.Rel (Opening.Like connection) (d.opening? key) (e.opening? key)
  matters : (d.cases.map Case.matter).filter (fun matter => matter.1 = connection) =
    e.cases.map Case.matter

namespace Docket.Alike

variable {connection : Nat} {d d' e : Docket}

theorem rule (h : Alike connection d e) (r : Request) :
    d.rule connection r = e.rule connection r := by
  unfold Docket.rule
  split
  · rfl
  · split
    · rfl
    · rename_i named _
      have hopening := h.opening named.key
      generalize d.opening? named.key = o? at hopening
      generalize e.opening? named.key = p? at hopening
      cases hopening with
      | none => rfl
      | some hlike => exact hlike.rule named r

theorem of_stands (h : Alike connection d e) (hstands : d.Stands d') : Alike connection d' e :=
  ⟨hstands.opening.symm ▸ h.opening, hstands.matters.symm ▸ h.matters⟩

/-- A request comes in on the connection, for both. -/
theorem enter (h : Alike connection d e) (r : Request) :
    Alike connection (d.enter connection r) (e.enter connection r) where
  opening := by
    intro key
    have hkey := h.opening key
    simp only [Docket.enter, Docket.openingsAfter]
    cases Headers.channelId r.headers with
    | error reason => exact hkey
    | ok named =>
        simp only
        split
        · exact Opening.Like.map hkey fun _ _ hlike => hlike.pass r.id
        · exact hkey
  matters := by
    rw [Docket.enter, Docket.enter, List.map_append, List.map_append, List.filter_append, h.matters,
      h.rule]
    congr 1
    exact List.filter_cons_of_pos (decide_eq_true rfl)

/-- A request comes in on another connection. -/
theorem enter_other (h : Alike connection d e) {other : Nat} (hother : other ≠ connection)
    (r : Request) : Alike connection (d.enter other r) e where
  opening := by
    intro key
    have hkey := h.opening key
    simp only [Docket.enter, Docket.openingsAfter]
    cases Headers.channelId r.headers with
    | error reason => exact hkey
    | ok named =>
        simp only
        split
        · rw [← Option.map_id' (x := e.opening? key)]
          exact Opening.Like.map hkey fun _ _ hlike => hlike.pass_other hother r.id
        · exact hkey
  matters := by
    rw [Docket.enter, List.map_append, List.filter_append, h.matters]
    have hmatter : (decide ((Case.start other r (d.rule other r)).matter.1 = connection)) = false :=
      decide_eq_false hother
    rw [List.map_singleton, List.filter_singleton, hmatter, cond_false, List.append_nil]

end Docket.Alike

/-- Before any request has come in, a docket is like itself. -/
theorem Docket.alike_self (connection : Nat) {d : Docket} (hd : d.cases = []) :
    Docket.Alike connection d d where
  opening := by
    intro key
    cases d.opening? key with
    | none => exact .none
    | some o => exact .some ⟨rfl, rfl, rfl⟩
  matters := by
    rw [hd]
    rfl

/-- The docket when the requests of one connection are all that came in. -/
def Docket.alone (d : Docket) (connection : Nat) (rs : List Request) : Docket :=
  rs.foldl (fun d r => d.enter connection r) d

theorem Docket.alone_append (d : Docket) (connection : Nat) (before after : List Request) :
    d.alone connection (before ++ after) = (d.alone connection before).alone connection after :=
  List.foldl_append

theorem Docket.cases_alone_prefix (d : Docket) (connection : Nat) (rs : List Request) :
    d.cases <+: (d.alone connection rs).cases := by
  induction rs generalizing d with
  | nil => exact List.prefix_rfl
  | cons r rs ih => exact (List.prefix_append ..).trans (ih (d.enter connection r))

/-- What is to be queued for a request in the end goes by the request and the ruling. -/
theorem Case.script_eq (k : Case) :
    k.script = (Case.start k.connection k.request k.ruling).script := by
  rcases k with ⟨connection, request, ruling, stage, outcome, events⟩
  cases ruling <;> rfl

theorem Case.map_script {ks ks' : List Case} (h : ks.map Case.matter = ks'.map Case.matter) :
    (ks.map fun k => (k.request, k.script)) = ks'.map fun k => (k.request, k.script) := by
  have hmatter : (fun k : Case => (k.request, k.script)) =
      (fun matter => (matter.2.1, (Case.start matter.1 matter.2.1 matter.2.2).script)) ∘
        Case.matter := by
    funext k
    exact congrArg (Prod.mk k.request) k.script_eq
  rw [hmatter, ← List.map_map, h, List.map_map]

theorem Case.script_congr {k k' : Case} (h : k.matter = k'.matter) : k.script = k'.script := by
  obtain ⟨hconnection, hrest⟩ := Prod.mk.inj h
  obtain ⟨hrequest, hruling⟩ := Prod.mk.inj hrest
  rw [k.script_eq, k'.script_eq, hconnection, hrequest, hruling]

/-- Where anything has been queued for a request, the response is in front of the events. -/
theorem Case.messages_of_ne_nil {k : Case} (h : k.messages ≠ []) :
    ∃ events : List Event, k.messages = .response k.response :: events.map Message.event := by
  unfold messages at h ⊢
  cases hstage : k.stage with
  | working => exact absurd (by simp only [hstage]) h
  | ended => exact absurd (by simp only [hstage]) h
  | answered => exact ⟨[], rfl⟩
  | released => exact ⟨k.events.map k.addressed, by rw [List.map_map]; rfl⟩

end Server

namespace Service

open Server (Case Docket Line)

/-- What the service says of a connection, together: a docket of the service that says of the connection
what it would say by itself, and the stream of the connection. -/
structure Apart (g : Docket) (connection limit : Nat) (bytes : Bytes) (s : Service) (d : Docket)
    (l : Line) : Prop where
  upkeep : Upkeep s d
  alike : d.Alike connection (g.alone connection (s.requestsOn connection))
  streams : Streams s connection limit bytes l

theorem Upkeep.requestsOn_eq {s : Service} {d : Docket} (hs : Upkeep s d) (connection : Nat) :
    s.requestsOn connection =
      ((d.cases.map Case.matter).filter fun matter => matter.1 = connection).map
        fun matter => matter.2.1 := by
  rw [requestsOn, hs.log, List.filter_map, List.filter_map, List.map_map, List.map_map]
  rfl

theorem Upkeep.answersOn_eq {s : Service} {d : Docket} (hs : Upkeep s d) (connection : Nat) :
    s.answersOn connection =
      (d.cases.zipIdx.filter fun entry => entry.1.connection = connection).map
        fun entry => (entry.1.request, s.history.queuedFor entry.2) := by
  rw [answersOn, hs.log, List.zipIdx_map, List.filter_map, List.map_map]
  rfl

theorem map_fst_answersOn (s : Service) (connection : Nat) :
    (s.answersOn connection).map Prod.fst = s.requestsOn connection := by
  rw [answersOn, requestsOn, List.map_map]
  conv_rhs => rw [← List.zipIdx_map_fst 0 s.log, List.filter_map, List.map_map]
  rfl

theorem apart_start (channels : List ChannelId) {connections : List (String × Nat)}
    {connection : Nat} {peer : String} {limit : Nat}
    (hconnection : connections[connection]? = some (peer, limit)) :
    ∃ l, Apart (ground channels connections) connection limit [] (start channels connections)
      (ground channels connections) l ∧ l.connection.closed = false := by
  obtain ⟨l, hl, hopen⟩ := streams_start channels hconnection
  have hground := (fresh_ground channels connections).cases
  exact ⟨l, ⟨upkeep_start channels connections, Docket.alike_self connection hground, hl⟩, hopen⟩

namespace Apart

variable {g d : Docket} {connection limit : Nat} {bytes : Bytes} {s : Service} {l : Line}

/-- Whatever happens that does not end the connection. -/
theorem step (h : Apart g connection limit bytes s d l) {op : Op}
    (hop : op.spares connection = true) :
    ∃ d' l', Apart g connection limit (bytes ++ bytesOn connection [op]) (s.step op) d' l' ∧
      Lasts limit l l' ∧
      (d.Stands d' ∨ ∃ other r, d.isLive other = true ∧ d' = d.enter other r) := by
  obtain ⟨d', hs', hgoes⟩ := h.upkeep.step op
  obtain ⟨l', hl', hlasts⟩ := h.streams.step hop
  refine ⟨d', l', ⟨hs', ?_, hl'⟩, hlasts, hgoes⟩
  have hrequests := h.upkeep.requestsOn_eq connection
  have hrequests' := hs'.requestsOn_eq connection
  -- a request came in on the connection, on another, or not at all
  rcases hgoes with hstands | ⟨other, r, -, rfl⟩
  · rw [hstands.matters, ← hrequests] at hrequests'
    rw [hrequests']
    exact h.alike.of_stands hstands
  · rw [Docket.enter, List.map_append, List.filter_append, List.map_append, ← hrequests,
      List.map_singleton, List.filter_singleton] at hrequests'
    by_cases hother : other = connection
    · subst hother
      have hlast : (s.step op).requestsOn other = s.requestsOn other ++ [r] := by
        simpa [Case.matter, Case.start] using hrequests'
      rw [hlast, Docket.alone_append]
      exact h.alike.enter r
    · have hsame : (s.step op).requestsOn connection = s.requestsOn connection := by
        simpa [Case.matter, Case.start, hother] using hrequests'
      rw [hsame]
      exact h.alike.enter_other hother r

/-- What happens, first to last.  A connection that has closed stays closed. -/
theorem run (h : Apart g connection limit bytes s d l) {ops : List Op}
    (hops : ∀ op ∈ ops, op.spares connection = true) :
    ∃ d' l', Apart g connection limit (bytes ++ bytesOn connection ops) (s.run ops) d' l' ∧
      (l.connection.closed = true → l'.connection.closed = true) := by
  induction ops generalizing s bytes d l with
  | nil =>
      rw [bytesOn_nil, List.append_nil]
      exact ⟨d, l, h, id⟩
  | cons op ops ih =>
      obtain ⟨d', l', h', hlasts, -⟩ := h.step (hops op (List.mem_cons_self ..))
      obtain ⟨d'', l'', h'', hclosed⟩ := ih h' fun other hother =>
        hops other (List.mem_cons_of_mem _ hother)
      rw [List.append_assoc, ← bytesOn_append] at h''
      exact ⟨d'', l'', h'', fun hl => hclosed (hlasts.closed hl)⟩

/-! ## What is queued -/

theorem exists_alone (h : Apart g connection limit bytes s d l) {k : Case} (hk : k ∈ d.cases)
    (hconnection : k.connection = connection) :
    ∃ k' ∈ (g.alone connection (s.requestsOn connection)).cases, k'.matter = k.matter := by
  have hmem : k.matter ∈ (d.cases.map Case.matter).filter fun matter => matter.1 = connection :=
    List.mem_filter.mpr ⟨List.mem_map_of_mem hk, decide_eq_true hconnection⟩
  rw [h.alike.matters] at hmem
  exact List.mem_map.mp hmem

/-- What is queued on the connection is in the script of one of its requests. -/
theorem mem_script_of_queued (h : Apart g connection limit bytes s d l) {m : Message}
    (hm : m ∈ l.queued) :
    ∃ k ∈ (g.alone connection (s.requestsOn connection)).cases, m ∈ k.script := by
  have hqueued : m ∈ s.history.queuedOn connection := by
    rw [Server.History.queuedOn, h.streams.line]
    exact hm
  rw [← h.upkeep.faithful connection] at hqueued
  obtain ⟨x, hx, rfl⟩ := List.mem_map.mp hqueued
  obtain ⟨hx, hboth⟩ := List.mem_filter.mp hx
  have hconnection : x.connection = connection :=
    of_decide_eq_true (Bool.and_eq_true_iff.mp hboth).1
  cases hk : d.cases[x.cause]? with
  | none =>
      have hnone := h.upkeep.mirrors.sent x.cause
      rw [hk] at hnone
      have hcause : x ∈ s.history.sent.filter fun other => other.cause = x.cause :=
        List.mem_filter.mpr ⟨hx, decide_eq_true rfl⟩
      rw [List.map_eq_nil_iff.mp hnone] at hcause
      cases hcause
  | some k =>
      obtain ⟨hfrom, hm⟩ := Server.History.of_mem_sent h.upkeep.mirrors hk x hx rfl
      obtain ⟨k', hk', hmatter⟩ :=
        h.exists_alone (List.mem_of_getElem? hk) (hfrom.symm.trans hconnection)
      refine ⟨k', hk', ?_⟩
      rw [Case.script_congr hmatter]
      exact (h.upkeep.messages_prefix_script hk).subset hm

section

variable (h : Apart g connection limit bytes s d l) (hopen : l.connection.closed = false)

include h hopen

/-- All that was to be queued for a request on the connection has been queued. -/
theorem queuedFor_eq {n : Nat} {k : Case} (hk : d.cases[n]? = some k)
    (hconnection : k.connection = connection) : s.history.queuedFor n = k.messages := by
  refine Server.History.queuedFor_eq h.upkeep.mirrors hk fun x hx hcause => ?_
  obtain ⟨hfrom, -⟩ := Server.History.of_mem_sent h.upkeep.mirrors hk x hx hcause
  exact h.streams.sent hopen x hx (hfrom.trans hconnection)

/-- A channel would accept an id on the connection as it would if the requests of the connection were
all that ever came in. -/
theorem accepts?_eq (key : String) (id : Nat) :
    s.accepts? connection key id =
      ((g.alone connection (s.requestsOn connection)).opening? key).map
        fun o => o.admits connection id := by
  have hlive : d.isGone connection = false := by
    have hlive := isLive_of_connection? h.streams.connection?_eq (h.streams.flowing hopen).reading
    rw [h.upkeep.mirrors.isLive, Docket.isLive, Bool.and_eq_true, Bool.not_eq_true'] at hlive
    exact hlive.2
  have hagree := h.upkeep.mirrors.channels key
  have hlike := h.alike.opening key
  rw [accepts?]
  generalize s.history.server.channels.get? key = c? at hagree
  generalize d.opening? key = o? at hagree hlike
  generalize (g.alone connection (s.requestsOn connection)).opening? key = p? at hlike
  cases hagree with
  | none =>
      cases hlike
      rfl
  | some hagree =>
      cases hlike with
      | some hlike => simp only [Option.map_some, hagree.admits connection hlive, hlike.admits]

/-- When no step is left, what has been queued for the requests on the connection is what they would
call for by themselves. -/
theorem answersOn_eq (hquiet : s.IsQuiet) :
    s.answersOn connection =
      (g.alone connection (s.requestsOn connection)).cases.map fun k => (k.request, k.script) := by
  have hqueued : ∀ entry ∈ d.cases.zipIdx.filter fun entry => entry.1.connection = connection,
      (entry.1.request, s.history.queuedFor entry.2) = (entry.1.request, entry.1.script) := by
    intro entry hentry
    obtain ⟨hmem, hconnection⟩ := List.mem_filter.mp hentry
    have hk : d.cases[entry.2]? = some entry.1 := List.mem_zipIdx_iff_getElem?.mp hmem
    rw [h.queuedFor_eq hopen hk (of_decide_eq_true hconnection), h.upkeep.messages_of_isQuiet hquiet hk]
  have hnumbers : (d.cases.zipIdx.filter fun entry => entry.1.connection = connection).map Prod.fst =
      d.cases.filter fun k => k.connection = connection := by
    conv_rhs => rw [← List.zipIdx_map_fst 0 d.cases, List.filter_map]
    rfl
  have hmatters : (d.cases.filter fun k => k.connection = connection).map Case.matter =
      (g.alone connection (s.requestsOn connection)).cases.map Case.matter := by
    rw [← h.alike.matters, List.filter_map]
    rfl
  rw [h.upkeep.answersOn_eq, List.map_congr_left hqueued, ← Case.map_script hmatters, ← hnumbers, List.map_map]
  rfl

/-- When no step is left, every request on the connection has one response, under its id, and the rest
are events. -/
theorem mem_answersOn (hquiet : s.IsQuiet) :
    ∀ answer ∈ s.answersOn connection, ∃ (response : Response) (events : List Event),
      answer.2 = .response response :: events.map Message.event ∧
        response.id = answer.1.id := by
  intro answer hanswer
  rw [h.upkeep.answersOn_eq] at hanswer
  obtain ⟨⟨k, n⟩, hentry, rfl⟩ := List.mem_map.mp hanswer
  obtain ⟨hmem, hconnection⟩ := List.mem_filter.mp hentry
  have hk : d.cases[n]? = some k := List.mem_zipIdx_iff_getElem?.mp hmem
  have hsome : k.messages ≠ [] := by
    rw [h.upkeep.messages_of_isQuiet hquiet hk]
    exact List.cons_ne_nil _ _
  obtain ⟨events, hmessages⟩ := Case.messages_of_ne_nil hsome
  refine ⟨k.response, events, ?_, (h.upkeep.proper k (List.mem_of_getElem? hk)).id_response⟩
  exact (h.queuedFor_eq hopen hk (of_decide_eq_true hconnection)).trans hmessages

/-- When no step is left, the requests on the connection are those that were sent on it, all that they
call for has been written, and it is what they would call for by themselves. -/
theorem at_rest (hquiet : s.IsQuiet) :
    s.requestsOn connection = (drain limit false bytes).messages.filterMap Message.request? ∧
      s.unwritten connection = [] ∧
      s.answersOn connection =
        (g.alone connection (s.requestsOn connection)).cases.map fun k => (k.request, k.script) := by
  obtain ⟨-, hrequests, houtbound⟩ := h.streams.at_rest hquiet hopen
  refine ⟨hrequests, ?_, h.answersOn_eq hopen hquiet⟩
  rw [unwritten, h.streams.connection?_eq]
  exact houtbound

/-- When no step is left, all that the requests on the connection call for keeps to the limit. -/
theorem length_script_le (hquiet : s.IsQuiet) :
    ∀ k ∈ (g.alone connection (s.requestsOn connection)).cases, ∀ m ∈ k.script,
      m.encode.length ≤ limit := by
  intro k hk m hm
  have hmem : k.matter ∈ (d.cases.map Case.matter).filter fun matter => matter.1 = connection := by
    rw [h.alike.matters]
    exact List.mem_map_of_mem hk
  obtain ⟨hmem, hconnection⟩ := List.mem_filter.mp hmem
  obtain ⟨k', hk', hmatter⟩ := List.mem_map.mp hmem
  obtain ⟨n, hn⟩ := List.getElem?_of_mem hk'
  rw [← hmatter] at hconnection
  have hfrom : k'.connection = connection := of_decide_eq_true hconnection
  have hsublist := Server.History.sublist_queuedOn h.upkeep.mirrors h.upkeep.faithful hn
  rw [h.queuedFor_eq hopen hn hfrom, h.upkeep.messages_of_isQuiet hquiet hn, hfrom,
    Case.script_congr hmatter, Server.History.queuedOn, h.streams.line, Option.map_some,
    Option.getD_some, Line.queued, h.streams.outbound_of_isQuiet hquiet hopen,
    List.append_nil] at hsublist
  exact h.streams.written m (hsublist.mem hm)

end

/-! ## What keeps a connection open -/

section

variable {all : Bytes} (hhalt : (drain limit false all).halt = .waiting)
  (hfits : ∀ k ∈ (g.alone connection
      ((drain limit false all).messages.filterMap Message.request?)).cases,
    ∀ m ∈ k.script, m.encode.length ≤ limit)

include hhalt hfits

/-- An open connection stays open, if all that will have been sent on it makes messages, and all that
these call for keeps to the limit. -/
theorem closed_of_lasts (h : Apart g connection limit bytes s d l)
    (hopen : l.connection.closed = false) {more : Bytes} (hmore : bytes ++ more = all) {l' : Line}
    (hlasts : Lasts limit l l') : l'.connection.closed = false := by
  -- what closes it would already be in the script of a request, or in the bytes
  by_contra hclosed
  have hflowing := h.streams.flowing hopen
  rcases hlasts.reason hopen (Bool.not_eq_false _ ▸ hclosed) with
    ⟨m, hm, hlarge⟩ | ⟨fault, rest, hdecode⟩
  · obtain ⟨k, hk, hscript⟩ := h.mem_script_of_queued (List.mem_append_right l.written hm)
    obtain ⟨later, hlater⟩ := hflowing.requests_front more
    rw [hmore] at hlater
    have hearlier := Docket.cases_alone_prefix (g.alone connection (s.requestsOn connection))
      connection later
    rw [← Docket.alone_append, hlater] at hearlier
    exact Nat.not_le.mpr hlarge (hfits k (hearlier.subset hk) m hscript)
  · obtain ⟨other, hfault⟩ := hflowing.fault hdecode more
    rw [hmore, hhalt] at hfault
    cases hfault

theorem run_of_fits (h : Apart g connection limit bytes s d l)
    (hopen : l.connection.closed = false) {ops : List Op}
    (hops : ∀ op ∈ ops, op.spares connection = true) (hall : bytes ++ bytesOn connection ops = all) :
    ∃ d' l', Apart g connection limit all (s.run ops) d' l' ∧ l'.connection.closed = false := by
  induction ops generalizing s bytes d l with
  | nil =>
      rw [bytesOn_nil, List.append_nil] at hall
      exact ⟨d, l, hall ▸ h, hopen⟩
  | cons op ops ih =>
      obtain ⟨d', l', h', hlasts, -⟩ := h.step (hops op (List.mem_cons_self ..))
      have hopen' := closed_of_lasts hhalt hfits h hopen hall hlasts
      refine ih h' hopen' (fun other hother => hops other (List.mem_cons_of_mem _ hother)) ?_
      rw [List.append_assoc, ← bytesOn_append]
      exact hall

end

end Apart

end Service

end MediaControl
