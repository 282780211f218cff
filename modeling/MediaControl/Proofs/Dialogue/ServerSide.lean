import MediaControl.Proofs.Dialogue.Basic
import MediaControl.Proofs.Service.Alone

/-!
# The server's side of a dialogue

The requests come in as their bytes say them, in the order in which they were written, so the case with a
number is that of the request with the same number, and the ruling on it is the one of a demonstration: its
id is larger than those before it on the channel.  Whatever has been queued is about one of the requests,
and all that has been queued about one request is what its case says.

Main statements: `matches_alone` (the ruling on each request), `ServerSide.step`, and
`ServerSide.filter_queued`.
-/

set_option autoImplicit false

namespace MediaControl

open MediaControl.Wire

open Server (Case Docket Line Opening)

/-! ## Texts that say the same -/

@[simp] theorem Message.rest_plain (m : Message) : m.plain.rest = m.rest := by
  have hheaders : headerBytes m.plain.headers = headerBytes m.headers := by
    rw [Message.plain, Message.headers_withHeaders, headerBytes, List.flatMap_map]
    rfl
  have hcontent : m.plain.content = m.content := by cases m <;> rfl
  rw [Message.rest, hheaders, hcontent]
  rfl

/-- A message has the bytes of what its bytes say. -/
theorem Message.encode_plain (m : Message) : m.plain.encode = m.encode := by
  have hstart : m.plain.start = m.start := m.start_withHeaders _
  simp only [Message.encode, Message.startLine, Message.otherLength, hstart, Message.rest_plain]

theorem ChannelId.plain_header_congr {id other : ChannelId} (hkey : id.key = other.key)
    (hresource : id.resource = other.resource) : id.header.plain = other.header.plain := by
  have hwire : id.wire = other.wire := by rw [ChannelId.wire, ChannelId.wire, hkey, hresource]
  show Header.ofText Catalogue.channelIdentifier id.wire = .ofText Catalogue.channelIdentifier other.wire
  rw [hwire]

namespace Dialogue

/-! ## Requests and their cases -/

/-- The request that a reader makes of the bytes of the request. -/
def incoming (limit : Nat) (a : Asked) : Request :=
  ((drain limit false a.message.encode).messages.filterMap Message.request?).headD a.request

/-- The bytes of the request make one request.  It has its method and its id, and names its channel, the
key of which can be told from a line. -/
structure Speaks (limit : Nat) (a : Asked) : Prop where
  isClear : a.channel.isClear = true
  arrives : drain limit false a.message.encode = ⟨[.request (incoming limit a)], .waiting, []⟩
  method : (incoming limit a).method = a.request.method
  id : (incoming limit a).id = a.pending.id
  named : ∃ named, Headers.channelId (incoming limit a).headers = .ok named ∧
    named.key = a.channel.key ∧ named.resource = a.channel.resource

theorem notMem_of_isClear {id : ChannelId} (h : id.isClear = true) :
    '@' ∉ id.key.toList ∧ '\n' ∉ id.key.toList := by
  simpa [ChannelId.isClear] using h

theorem eq_of_beq {id other : ChannelId} (h : (id == other) = true) :
    id.key = other.key ∧ id.resource = other.resource := by
  have hboth : (id.key == other.key && id.resource == other.resource) = true := h
  simpa using hboth

theorem speaks_of_travels {clientLimit serverLimit : Nat} {a : Asked}
    (h : a.Travels clientLimit serverLimit) (hclear : a.channel.isClear = true)
    (hid : a.request.id = a.pending.id) : Speaks serverLimit a := by
  obtain ⟨r, harrives, hmethod, hr, named, hnamed, hsame⟩ := h.arrives
  have hincoming : incoming serverLimit a = r := by
    rw [incoming, harrives]
    rfl
  refine ⟨hclear, ?_, ?_, ?_, ?_⟩
  · rw [hincoming]
    exact harrives
  · rw [hincoming]
    exact hmethod
  · rw [hincoming]
    exact hr.trans hid
  · rw [hincoming]
    exact ⟨named, hnamed, eq_of_beq hsame⟩

/-- The bytes of requests. -/
def bytesOf (asked : List Asked) : Bytes := asked.flatMap fun a => a.message.encode

/-- Requests are read from their bytes one after the other. -/
theorem drain_bytesOf {limit : Nat} {asked : List Asked} (h : ∀ a ∈ asked, Speaks limit a) :
    drain limit false (bytesOf asked) =
      ⟨asked.map fun a => .request (incoming limit a), .waiting, []⟩ := by
  induction asked with
  | nil => exact drain_of_waiting (show decode limit [] = (.ok none, []) from rfl)
  | cons a asked ih =>
      have harrives := (h a (List.mem_cons_self ..)).arrives
      have hhalt : (drain limit false a.message.encode).halt = .waiting := by rw [harrives]
      have happend := drain_append_of_waiting hhalt false (bytesOf asked)
      rw [harrives, List.nil_append, ih fun b hb => h b (List.mem_cons_of_mem _ hb)] at happend
      exact happend

theorem requests_bytesOf {limit : Nat} {asked : List Asked} (h : ∀ a ∈ asked, Speaks limit a) :
    (drain limit false (bytesOf asked)).messages.filterMap Message.request? =
      asked.map (incoming limit) := by
  rw [drain_bytesOf h, List.filterMap_map]
  exact congrFun List.filterMap_eq_map asked

/-- The case is that of the request: it came in as its bytes say, and is ruled as a demonstration rules
it. -/
structure Matches (c : Case) (a : Asked) : Prop where
  connection : c.connection = 0
  id : c.request.id = a.pending.id
  method : c.request.method = a.request.method
  channel : ∃ channel : ChannelId, channel.key = a.channel.key ∧
    channel.resource = a.channel.resource ∧ c.Demonstrates channel

namespace Matches

variable {c c' : Case} {a : Asked}

/-- It goes by who asked for what, and the ruling. -/
theorem congr (hm : Matches c a) (h : c.matter = c'.matter) : Matches c' a := by
  obtain ⟨hconnection, hrest⟩ := Prod.mk.inj h
  obtain ⟨hrequest, hruling⟩ := Prod.mk.inj hrest
  obtain ⟨channel, hkey, hresource, hdemo⟩ := hm.channel
  refine ⟨hconnection ▸ hm.connection, hrequest ▸ hm.id, hrequest ▸ hm.method, channel, hkey,
    hresource, ?_⟩
  unfold Case.Demonstrates at hdemo ⊢
  rw [← hruling, ← hrequest]
  exact hdemo

/-- What is queued for the request is what a demonstration sends for it. -/
theorem script_plain (hm : Matches c a) : c.script.map Message.plain = a.answers.map Message.plain := by
  obtain ⟨channel, hkey, hresource, hdemo⟩ := hm.channel
  have hheader := ChannelId.plain_header_congr hkey hresource
  have hresponse : ∀ (code : Nat) (state : RequestState),
      (c.demoResponse channel ⟨code⟩ state).plain =
        (Message.response (.new a.pending.id ⟨code⟩ state a.channel)).plain := by
    intro code state
    show Message.response { id := c.request.id, status := ⟨code⟩, state, headers := [channel.header.plain] } =
      .response { id := a.pending.id, status := ⟨code⟩, state, headers := [a.channel.header.plain] }
    rw [hm.id, hheader]
  have hevent : ∀ name : EventName,
      (Message.event (Demo.completion name channel c.request.id)).plain =
        (Message.event (Demo.completion name a.channel a.pending.id)).plain := by
    intro name
    simp only [Message.plain, Message.headers, Message.withHeaders, Demo.headers_completion,
      List.map_cons, hheader, hm.id]
    rfl
  rw [hdemo.script_eq, Asked.answers, hm.method, hresource]
  split
  · cases a.request.method.completionEvent? with
    | none => simp only [List.map_cons, List.map_nil, hresponse]
    | some name => simp only [List.map_cons, List.map_nil, hresponse, hevent]
  · simp only [List.map_cons, List.map_nil, hresponse]

theorem exists_answer (hm : Matches c a) {m : Message} (hmem : m ∈ c.script) :
    ∃ m' ∈ a.answers, m'.encode = m.encode := by
  have hplain : m.plain ∈ a.answers.map Message.plain :=
    hm.script_plain ▸ List.mem_map_of_mem hmem
  obtain ⟨m', hm', hsame⟩ := List.mem_map.mp hplain
  exact ⟨m', hm', m'.encode_plain.symm.trans ((congrArg Message.encode hsame).trans m.encode_plain)⟩

theorem isAbout (hm : Matches c a) (hclear : a.channel.isClear = true) {m : Message}
    (hmem : m ∈ c.script) : m.isAbout a.key = true := by
  obtain ⟨channel, hkey, -, hdemo⟩ := hm.channel
  have hat : '@' ∉ channel.key.toList := hkey ▸ (notMem_of_isClear hclear).1
  obtain ⟨hchannel, hid⟩ := hdemo.names_script hat hmem
  refine Message.isAbout_iff.mpr ⟨channel.plain, hchannel, ?_⟩
  rw [channel.key_plain, hkey, hid, hm.id]
  rfl

/-- What is queued for the request comes out of its bytes as it went in. -/
theorem wireSafe_script {limit : Nat} (hm : Matches c a) (hspeaks : Speaks limit a) {m : Message}
    (hmem : m ∈ c.script) : m.WireSafe := by
  obtain ⟨channel, hkey, -, hdemo⟩ := hm.channel
  have hline : '\n' ∉ channel.key.toList := hkey ▸ (notMem_of_isClear hspeaks.isClear).2
  -- the id came in as the reader reads it
  have hcame : Message.request (incoming limit a) ∈
      (drain limit false a.message.encode).messages := by
    rw [hspeaks.arrives]
    exact List.mem_singleton_self _
  have hbounded : (incoming limit a).id ≤ Natural.max64 := (fromWire_of_mem_drain _ hcame).isBounded
  refine hdemo.wireSafe_script hline ?_ hmem
  rw [hm.id, ← hspeaks.id]
  exact hbounded

theorem map_report?_script (hm : Matches c a) :
    (c.script.map fun m => m.plain.report?) =
      (a.request.method.reports a.channel.resource).map some := by
  obtain ⟨channel, -, hresource, hdemo⟩ := hm.channel
  rw [hdemo.script_eq, Method.reports, hm.method, hresource]
  split
  · cases a.request.method.completionEvent? <;> rfl
  · rfl

/-- Every message of it names the channel of the request and has its id. -/
theorem names_script (hm : Matches c a) (hclear : a.channel.isClear = true) {m : Message}
    (hmem : m ∈ c.script) :
    m.plain.id = a.pending.id ∧
      ∃ channel, m.plain.channelId = .ok channel ∧ (channel == a.channel) = true := by
  obtain ⟨channel, hkey, hresource, hdemo⟩ := hm.channel
  have hat : '@' ∉ channel.key.toList := hkey ▸ (notMem_of_isClear hclear).1
  obtain ⟨hchannel, hid⟩ := hdemo.names_script hat hmem
  refine ⟨m.id_plain.trans (hid.trans hm.id), channel.plain, hchannel, ?_⟩
  show (channel.plain.key == a.channel.key && channel.plain.resource == a.channel.resource) = true
  rw [channel.key_plain, channel.resource_plain, hkey, hresource, beq_self_eq_true,
    beq_self_eq_true]
  rfl

theorem settled_script (hm : Matches c a) :
    Correlator.Settled (c.script.map fun m => .ok m.plain) := by
  obtain ⟨channel, -, -, hdemo⟩ := hm.channel
  exact hdemo.settled_script

end Matches

/-! ## Rulings -/

/-- The channel is open with that type of resource. -/
def Serves (k : Docket) (id : ChannelId) : Prop :=
  ∃ o, k.opening? id.key = some o ∧ o.id.resource = id.resource

/-- A channel that the server has is open. -/
theorem Serves.of_any {h : Server.History} {k : Docket} {id : ChannelId} (hm : Server.Mirrors h k)
    (hany : ((h.server.channels.get? id.key).any fun c => c.id.resource = id.resource) = true) :
    Serves k id := by
  have hagree := hm.channels id.key
  unfold Serves
  generalize h.server.channels.get? id.key = c? at hagree hany
  generalize k.opening? id.key = o? at hagree ⊢
  cases hagree with
  | none => cases hany
  | some hsame =>
      exact ⟨_, rfl, (congrArg ChannelId.resource hsame.id).symm.trans (of_decide_eq_true hany)⟩

theorem Serves.congr {k k' : Docket} {id : ChannelId} (hs : Serves k id)
    (h : (k'.opening? id.key).map Opening.id = (k.opening? id.key).map Opening.id) : Serves k' id := by
  obtain ⟨o, ho, hresource⟩ := hs
  rw [ho] at h
  obtain ⟨o', ho', hid⟩ := Option.map_eq_some_iff.mp h
  exact ⟨o', ho', (congrArg ChannelId.resource hid).trans hresource⟩

/-- A request that comes in opens no channel and closes none. -/
theorem map_id_opening_enter (k : Docket) (connection : Nat) (r : Request) (key : String) :
    ((k.enter connection r).opening? key).map Opening.id = (k.opening? key).map Opening.id := by
  rw [Docket.enter, Docket.openingsAfter]
  cases Headers.channelId r.headers with
  | error reason => rfl
  | ok named =>
      simp only
      split
      · rw [Option.map_map]
        exact congrArg (Option.map · _) (funext fun o => o.id_pass connection r.id)
      · rfl

theorem map_id_opening_alone (k : Docket) (connection : Nat) (rs : List Request) (key : String) :
    ((k.alone connection rs).opening? key).map Opening.id = (k.opening? key).map Opening.id := by
  induction rs generalizing k with
  | nil => rfl
  | cons r rs ih => exact (ih _).trans (map_id_opening_enter k connection r key)

/-- What a connection has by itself is open if it is. -/
theorem Serves.of_alike {g k : Docket} {connection : Nat} {rs : List Request} {id : ChannelId}
    (hs : Serves k id) (halike : k.Alike connection (g.alone connection rs)) : Serves g id := by
  refine hs.congr ?_
  rw [← map_id_opening_alone g connection rs]
  have hlike := halike.opening id.key
  generalize k.opening? id.key = o? at hlike
  generalize (g.alone connection rs).opening? id.key = p? at hlike
  cases hlike with
  | none => rfl
  | some hlike => exact congrArg some hlike.id.symm

/-- A request changes no channel but its own, which may have let its id pass. -/
theorem opening_enter {k : Docket} {limit : Nat} {a : Asked} (hspeaks : Speaks limit a) {key : String}
    {o : Opening} (ho : (k.enter 0 (incoming limit a)).opening? key = some o) :
    ∃ o₀, k.opening? key = some o₀ ∧ o.id = o₀.id ∧ o.handlers = o₀.handlers ∧
      ∀ id ∈ o.passed 0, id ∈ o₀.passed 0 ∨ (key, id) = a.key := by
  obtain ⟨named, hnamed, hkey, -⟩ := hspeaks.named
  simp only [Docket.enter, Docket.openingsAfter, hnamed] at ho
  split at ho
  · rename_i hsame
    obtain ⟨o₀, ho₀, rfl⟩ := Option.map_eq_some_iff.mp ho
    refine ⟨o₀, ho₀, o₀.id_pass .., o₀.handlers_pass .., ?_⟩
    intro id hid
    unfold Opening.pass at hid
    split at hid
    · simp only [if_true] at hid
      rcases List.mem_append.mp hid with hid | hid
      · exact .inl hid
      · refine .inr ?_
        rw [List.mem_singleton.mp hid, hsame, hkey, Asked.key, ← hspeaks.id]
    · exact .inl hid
  · exact ⟨o, ho, rfl, rfl, fun id hid => .inl hid⟩

/-- Requests that a server with these channels can take, one after the other: the ids increase on each
channel, the channels are open, and what is sent for them keeps to the limit. -/
structure Ready (g : Docket) (limit : Nat) (asked : List Asked) : Prop where
  increasing : asked.Pairwise fun a b => a.channel.key = b.channel.key → a.pending.id < b.pending.id
  speaks : ∀ a ∈ asked, Speaks limit a
  serves : ∀ a ∈ asked, Serves g a.channel
  fits : ∀ a ∈ asked, ∀ m ∈ a.answers, m.encode.length ≤ limit

theorem Ready.of_front {g : Docket} {limit : Nat} {asked later : List Asked} (h : Ready g limit later)
    (hfirst : asked <+: later) : Ready g limit asked where
  increasing := h.increasing.sublist hfirst.sublist
  speaks := fun a ha => h.speaks a (hfirst.subset ha)
  serves := fun a ha => h.serves a (hfirst.subset ha)
  fits := fun a ha => h.fits a (hfirst.subset ha)

theorem Ready.nodup_keys {g : Docket} {limit : Nat} {asked : List Asked} (h : Ready g limit asked) :
    (asked.map Asked.key).Nodup := by
  rw [List.Nodup, List.pairwise_map]
  refine h.increasing.imp ?_
  intro a b hlt hkey
  obtain ⟨hchannel, hid⟩ := Prod.mk.inj hkey
  exact Nat.ne_of_lt (hlt hchannel) hid

section alone

variable {g : Docket} (hg : g.IsFresh) {limit : Nat} {asked : List Asked}

include hg

/-- When requests have come in, the channels are as they were opened, and the ids that passed are those of
the requests. -/
theorem opening_alone (hspeaks : ∀ a ∈ asked, Speaks limit a) {key : String} {o : Opening}
    (ho : (g.alone 0 (asked.map (incoming limit))).opening? key = some o) :
    o.id.key = key ∧ o.handlers = Demo.handlers o.id.resource ∧
      ∀ id ∈ o.passed 0, ∃ a ∈ asked, a.key = (key, id) := by
  induction asked using List.reverseRecOn generalizing o with
  | nil =>
      obtain ⟨hkey, hhandlers, hpassed⟩ := hg.opening key o ho
      refine ⟨hkey, hhandlers, ?_⟩
      intro id hid
      rw [hpassed] at hid
      cases hid
  | append_singleton asked a ih =>
      rw [List.map_append, Docket.alone_append] at ho
      obtain ⟨o₀, ho₀, hid, hhandlers, hpassed⟩ :=
        opening_enter (hspeaks a (List.mem_append_right _ (List.mem_singleton_self a))) ho
      obtain ⟨hkey₀, hhandlers₀, hpassed₀⟩ := ih (fun b hb => hspeaks b (List.mem_append_left _ hb)) ho₀
      rw [hid, hhandlers]
      refine ⟨hkey₀, hhandlers₀, ?_⟩
      intro id hmem
      rcases hpassed id hmem with hmem | hlast
      · obtain ⟨b, hb, hbkey⟩ := hpassed₀ id hmem
        exact ⟨b, List.mem_append_left _ hb, hbkey⟩
      · exact ⟨a, List.mem_append_right _ (List.mem_singleton_self a), hlast.symm⟩

/-- The next request is ruled as a demonstration rules it. -/
theorem matches_start {a : Asked} (hready : Ready g limit (asked ++ [a])) :
    let k := g.alone 0 (asked.map (incoming limit))
    Matches (.start 0 (incoming limit a) (k.rule 0 (incoming limit a))) a := by
  intro k
  have ha : a ∈ asked ++ [a] := List.mem_append_right _ (List.mem_singleton_self a)
  have hspeaks := hready.speaks a ha
  obtain ⟨named, hnamed, hkey, hresource⟩ := hspeaks.named
  obtain ⟨o, ho, hsame⟩ := (hready.serves a ha).congr (map_id_opening_alone g 0 (asked.map (incoming limit)) _)
  obtain ⟨hid, hhandlers, hpassed⟩ :=
    opening_alone hg (fun b hb => hready.speaks b (List.mem_append_left _ hb)) ho
  have hadmits : o.admits 0 (incoming limit a).id = true := by
    rw [Opening.admits, List.all_eq_true]
    intro earlier hearlier
    obtain ⟨b, hb, hbkey⟩ := hpassed earlier hearlier
    obtain ⟨hchannel, rfl⟩ := Prod.mk.inj hbkey
    rw [hspeaks.id]
    exact decide_eq_true ((List.pairwise_append.mp hready.increasing).2.2 b hb a
      (List.mem_singleton_self a) hchannel)
  obtain ⟨line, hget⟩ := Headers.get?_of_channelId hnamed
  have hopening : k.opening? a.channel.key = some o := ho
  have hrule : k.rule 0 (incoming limit a) = o.rule 0 named (incoming limit a) := by
    simp only [Docket.rule, hget, hnamed, hkey, hopening]
  refine ⟨rfl, hspeaks.id, hspeaks.method, o.id, hid, hsame, ?_⟩
  show k.rule 0 (incoming limit a) = _
  rw [hrule, Opening.rule, hadmits, hhandlers, Demo.get?_handlers]
  have htype : named.resource = o.id.resource := hresource.trans hsame.symm
  simp only [Bool.not_true, Bool.false_eq_true, if_false, htype, ne_eq, not_true_eq_false]
  show _ = if (incoming limit a).method.isValidFor o.id.resource then _ else _
  cases (incoming limit a).method.isValidFor o.id.resource <;> rfl

/-- Every case is that of the request with its number. -/
theorem matches_alone (hready : Ready g limit asked) :
    List.Forall₂ Matches (g.alone 0 (asked.map (incoming limit))).cases asked := by
  induction asked using List.reverseRecOn with
  | nil =>
      show List.Forall₂ Matches g.cases []
      rw [hg.cases]
      exact .nil
  | append_singleton asked a ih =>
      have hearlier := ih (hready.of_front (List.prefix_append ..))
      rw [List.map_append, Docket.alone_append]
      exact List.rel_append hearlier (.cons (matches_start hg hready) .nil)

theorem exists_of_alone (hready : Ready g limit asked) {n : Nat} {c : Case}
    (hc : (g.alone 0 (asked.map (incoming limit))).cases[n]? = some c) :
    ∃ a, asked[n]? = some a ∧ Matches c a := by
  obtain ⟨hlength, hget⟩ := List.forall₂_iff_get.mp (matches_alone hg hready)
  obtain ⟨hlt, rfl⟩ := List.getElem?_eq_some_iff.mp hc
  have hasked : n < asked.length := hlength ▸ hlt
  exact ⟨asked[n], List.getElem?_eq_getElem hasked, hget n hlt hasked⟩

end alone

/-! ## The server -/

/-- The server's end of the stream on which these requests were written: there is no other connection,
and it is open. -/
structure ServerSide (g : Docket) (limit : Nat) (asked : List Asked) (s : Service) (k : Docket)
    (l : Line) : Prop where
  apart : Service.Apart g 0 limit (bytesOf asked) s k l
  isOpen : l.connection.closed = false
  lines : s.history.lines = [l]
  connection : ∀ c ∈ k.cases, c.connection = 0

theorem serverSide_start (channels : List ChannelId) (peer : String) (limit : Nat) :
    ∃ l, l.written = [] ∧ ServerSide (Service.ground channels [(peer, limit)]) limit []
      (Service.start channels [(peer, limit)]) (Service.ground channels [(peer, limit)]) l := by
  have hrun : (Service.start channels [(peer, limit)]).history =
      Server.History.step (.run {} (channels.map fun id => .openChannel id (Demo.handlers id.resource)))
        (.connect peer limit) := List.foldl_append
  have hlines : (Service.start channels [(peer, limit)]).history.lines =
      [{ connection := { id := 0, peer, limit } }] := by
    rw [hrun, Server.History.step, (Service.lines_openChannels {} channels).1]
    rfl
  have hpeer : [(peer, limit)][0]? = some (peer, limit) := rfl
  obtain ⟨l, hapart, hopen⟩ := Service.apart_start channels hpeer
  have hline := hapart.streams.line
  rw [hlines, List.getElem?_cons_zero, Option.some_inj] at hline
  subst hline
  refine ⟨_, rfl, hapart, hopen, hlines, ?_⟩
  intro c hc
  rw [(Service.fresh_ground channels [(peer, limit)]).cases] at hc
  cases hc

namespace ServerSide

variable {g : Docket} {limit : Nat} {asked : List Asked} {s : Service} {k : Docket} {l : Line}

/-! ### What has come in -/

/-- The requests that came in are the first of those that were written. -/
theorem requestsOn_eq (hs : ServerSide g limit asked s k l) (hspeaks : ∀ a ∈ asked, Speaks limit a) :
    s.requestsOn 0 = (asked.take k.cases.length).map (incoming limit) := by
  have hall : ((k.cases.map Case.matter).filter fun matter => matter.1 = 0) = k.cases.map Case.matter := by
    rw [List.filter_eq_self]
    intro matter hmatter
    obtain ⟨c, hc, rfl⟩ := List.mem_map.mp hmatter
    exact decide_eq_true (hs.connection c hc)
  have hlength : (s.requestsOn 0).length = k.cases.length := by
    rw [hs.apart.upkeep.requestsOn_eq, hall, List.length_map, List.length_map]
  have hfront := (hs.apart.streams.flowing hs.isOpen).requests_front []
  rw [List.append_nil, requests_bytesOf hspeaks] at hfront
  rw [List.prefix_iff_eq_take.mp hfront, hlength, List.map_take]

/-- Every case is that of the request with its number. -/
theorem exists_asked (hs : ServerSide g limit asked s k l) (hg : g.IsFresh) (hready : Ready g limit asked)
    {n : Nat} {c : Case} (hc : k.cases[n]? = some c) : ∃ a, asked[n]? = some a ∧ Matches c a := by
  have halike := hs.apart.alike.matters
  rw [hs.requestsOn_eq hready.speaks, List.filter_eq_self.mpr] at halike
  · have hmatter := congrArg (fun matters => matters[n]?) halike
    simp only [List.getElem?_map, hc, Option.map_some] at hmatter
    obtain ⟨c', hc', hsame⟩ := Option.map_eq_some_iff.mp hmatter.symm
    have hfirst := List.take_prefix k.cases.length asked
    obtain ⟨a, ha, hmatches⟩ := exists_of_alone hg (hready.of_front hfirst) hc'
    obtain ⟨hlt, rfl⟩ := List.getElem?_eq_some_iff.mp ha
    exact ⟨_, List.prefix_iff_getElem?.mp hfirst n hlt, hmatches.congr hsame⟩
  · intro matter hmatter
    obtain ⟨c, hc, rfl⟩ := List.mem_map.mp hmatter
    exact decide_eq_true (hs.connection c hc)

/-- Whatever has been queued was queued for one of the requests, and is in its script. -/
theorem mem_script (hs : ServerSide g limit asked s k l) (hg : g.IsFresh) (hready : Ready g limit asked)
    {x : Server.Sending} (hmem : x ∈ s.history.sent) :
    ∃ c a, k.cases[x.cause]? = some c ∧ asked[x.cause]? = some a ∧ Matches c a ∧
      x.message ∈ c.script ∧ x.connection = 0 := by
  have hmirrors := hs.apart.upkeep.mirrors
  cases hc : k.cases[x.cause]? with
  | none =>
      have hsentFor : (x.connection, x.message) ∈ s.history.sentFor x.cause :=
        List.mem_map.mpr ⟨x, List.mem_filter.mpr ⟨hmem, decide_eq_true rfl⟩, rfl⟩
      rw [hmirrors.sent, hc] at hsentFor
      cases hsentFor
  | some c =>
      obtain ⟨hfrom, hm⟩ := Server.History.of_mem_sent hmirrors hc x hmem rfl
      obtain ⟨a, ha, hmatches⟩ := hs.exists_asked hg hready hc
      exact ⟨c, a, rfl, ha, hmatches, (hs.apart.upkeep.messages_prefix_script hc).subset hm,
        hfrom.trans hmatches.connection⟩

/-- All that was to be queued has been queued on the line. -/
theorem queued (hs : ServerSide g limit asked s k l) (hg : g.IsFresh) (hready : Ready g limit asked) :
    l.queued = s.history.sent.map Server.Sending.message := by
  have hall : (s.history.sent.filter fun x => x.connection = 0 && x.isQueued) = s.history.sent := by
    rw [List.filter_eq_self]
    intro x hx
    obtain ⟨c, a, -, -, -, -, hconnection⟩ := hs.mem_script hg hready hx
    rw [hconnection, hs.apart.streams.sent hs.isOpen x hx hconnection]
    rfl
  have hsame := hs.apart.upkeep.faithful 0
  rw [Server.History.loggedOn, hall, Server.History.queuedOn, hs.lines] at hsame
  exact hsame.symm

theorem mem_queued (hs : ServerSide g limit asked s k l) (hg : g.IsFresh) (hready : Ready g limit asked)
    {m : Message} (hm : m ∈ l.queued) :
    ∃ (n : Nat) (c : Case) (a : Asked), k.cases[n]? = some c ∧ asked[n]? = some a ∧ Matches c a ∧
      m ∈ c.script := by
  rw [hs.queued hg hready] at hm
  obtain ⟨x, hx, rfl⟩ := List.mem_map.mp hm
  obtain ⟨c, a, hc, ha, hmatches, hscript, -⟩ := hs.mem_script hg hready hx
  exact ⟨x.cause, c, a, hc, ha, hmatches, hscript⟩

/-- All that has been queued about a request is what its case says. -/
theorem filter_queued (hs : ServerSide g limit asked s k l) (hg : g.IsFresh) (hready : Ready g limit asked)
    {n : Nat} {a : Asked} (ha : asked[n]? = some a) :
    l.queued.filter (fun m => m.isAbout a.key) = ((k.cases[n]?).map Case.messages).getD [] := by
  have hcause : s.history.sent.filter ((fun m => m.isAbout a.key) ∘ Server.Sending.message) =
      s.history.sent.filter fun x => x.cause = n := by
    refine List.filter_congr ?_
    intro x hmem
    obtain ⟨c, b, -, hb, hmatches, hscript, -⟩ := hs.mem_script hg hready hmem
    have habout := hmatches.isAbout (hready.speaks b (List.mem_of_getElem? hb)).isClear hscript
    rw [Function.comp_apply, Bool.eq_iff_iff, decide_eq_true_iff]
    constructor
    · intro habout'
      have hkey := Message.eq_of_isAbout habout habout'
      have hlt : x.cause < (asked.map Asked.key).length := by
        rw [List.length_map]
        exact (List.getElem?_eq_some_iff.mp hb).1
      refine (List.getElem?_inj hlt hready.nodup_keys).mp ?_
      rw [List.getElem?_map, List.getElem?_map, hb, ha, Option.map_some, Option.map_some, hkey]
    · intro hn
      rw [hn, ha] at hb
      rw [Option.some.inj hb]
      exact habout
  have hsentFor := congrArg (List.map Prod.snd) (hs.apart.upkeep.mirrors.sent n)
  rw [Server.History.sentFor, List.map_map] at hsentFor
  rw [hs.queued hg hready, List.filter_map, hcause]
  refine hsentFor.trans ?_
  cases k.cases[n]? with
  | none => rfl
  | some c => simp [List.map_map, Function.comp_def]

/-! ### What happens -/

/-- Whatever happens to the server, it stays open, and what it has written stays written. -/
theorem step (hs : ServerSide g limit asked s k l) (hg : g.IsFresh) (hready : Ready g limit asked)
    (op : Service.Op) (hop : op.spares 0 = true) (hmade : ∀ peer most, op ≠ .deed (.connect peer most))
    {later : List Asked} (hbytes : bytesOf asked ++ Service.bytesOn 0 [op] = bytesOf later) :
    ∃ k' l', ServerSide g limit later (s.step op) k' l' ∧ l.written <+: l'.written := by
  obtain ⟨k', l', hapart, hlasts, hgoes⟩ := hs.apart.step hop
  have hhalt : (drain limit false (bytesOf asked)).halt = .waiting := by
    rw [drain_bytesOf hready.speaks]
  have hfits : ∀ c ∈ (g.alone 0 ((drain limit false (bytesOf asked)).messages.filterMap
      Message.request?)).cases, ∀ m ∈ c.script, m.encode.length ≤ limit := by
    rw [requests_bytesOf hready.speaks]
    intro c hc m hm
    obtain ⟨n, hn⟩ := List.getElem?_of_mem hc
    obtain ⟨a, ha, hmatches⟩ := exists_of_alone hg hready hn
    obtain ⟨m', hm', hsame⟩ := hmatches.exists_answer hm
    exact hsame ▸ hready.fits a (List.mem_of_getElem? ha) m' hm'
  have hopen := Service.Apart.closed_of_lasts hhalt hfits hs.apart hs.isOpen
    (List.append_nil (bytesOf asked)) hlasts
  have hlength := s.length_lines_step hmade
  rw [hs.lines, List.length_singleton] at hlength
  obtain ⟨l'', hlines⟩ := List.length_eq_one_iff.mp hlength
  have hline := hapart.streams.line
  rw [hlines, List.getElem?_cons_zero, Option.some_inj] at hline
  subst hline
  refine ⟨k', l'', ⟨hbytes ▸ hapart, hopen, hlines, ?_⟩, hlasts.written⟩
  rcases hgoes with hstands | ⟨other, r, hlive, rfl⟩
  · intro c hc
    have hmatter : c.matter ∈ k.cases.map Case.matter := hstands.matters ▸ List.mem_map_of_mem hc
    obtain ⟨c', hc', hsame⟩ := List.mem_map.mp hmatter
    exact (congrArg Prod.fst hsame).symm.trans (hs.connection c' hc')
  · -- a request comes in on the one connection that there is
    rw [← hs.apart.upkeep.mirrors.isLive, Server.History.isLive, hs.lines] at hlive
    have hother : other = 0 := by
      cases other with
      | zero => rfl
      | succ other => cases hlive
    intro c hc
    rcases List.mem_append.mp hc with hc | hc
    · exact hs.connection c hc
    · rw [List.mem_singleton.mp hc]
      exact hother

/-! ### At rest -/

/-- When no step is left, every request that was written has come in, all that is sent for it has been
queued, and everything has been written. -/
theorem at_rest (hs : ServerSide g limit asked s k l) (hready : Ready g limit asked) (hquiet : s.IsQuiet)
    {n : Nat} {a : Asked} (ha : asked[n]? = some a) :
    ∃ c, k.cases[n]? = some c ∧ c.messages = c.script := by
  obtain ⟨-, hrequests, -⟩ := hs.apart.streams.at_rest hquiet hs.isOpen
  rw [hs.requestsOn_eq hready.speaks, requests_bytesOf hready.speaks] at hrequests
  have hlength := congrArg List.length hrequests
  rw [List.length_map, List.length_map, List.length_take] at hlength
  have hcame : n < k.cases.length :=
    Nat.lt_of_lt_of_le (List.getElem?_eq_some_iff.mp ha).1 (by omega)
  have hc := List.getElem?_eq_getElem hcame
  exact ⟨_, hc, hs.apart.upkeep.messages_of_isQuiet hquiet hc⟩

theorem written_of_isQuiet (hs : ServerSide g limit asked s k l) (hquiet : s.IsQuiet) :
    l.written = l.queued := by
  obtain ⟨-, -, hunwritten⟩ := hs.apart.streams.at_rest hquiet hs.isOpen
  rw [Line.queued, hunwritten, List.append_nil]

end ServerSide

end Dialogue

end MediaControl
