import MediaControl.Proofs.Dialogue.ClientSide
import MediaControl.Proofs.Dialogue.ServerSide
import MediaControl.Proofs.Wire.RoundTrip

/-!
# Both sides of a dialogue

The two sides of a dialogue fit together.  What the server has on its stream are the bytes of the requests
that were written, and what the session has on its own are the bytes of the messages that the server has
written.  So each message that is taken on either side is the one that this side is ready for, and the
stream stays open.

Main statements: `Sound.step` and `Sound.run`, and `Joined.received` (what a request has been told).
-/

set_option autoImplicit false

namespace MediaControl.Dialogue

open MediaControl.Wire

open Server (Case Docket Line)

open Service (Carries offer_cases readSome_cases)

/-! ## What happens to a dialogue -/

/-- What the two sides do of themselves sends no request. -/
theorem asked_move (d : Dialogue) (m : Move) : (d.move m).asked = d.asked := by
  cases m with
  | write =>
      rw [move, write]
      repeat' split
      all_goals rfl
  | quit =>
      rw [move, quit]
      split <;> rfl
  | read size => rfl
  | look =>
      rw [move, look]
      repeat' split
      all_goals rfl
  | notice =>
      rw [move, notice]
      split <;> rfl
  | serve m => rfl

/-- The requests that were sent stay the first of all. -/
theorem asked_prefix_step (d : Dialogue) (op : Op) : d.asked <+: (d.step op).asked := by
  have hsame : ∀ d' : Dialogue, d'.asked = d.asked → d.asked <+: d'.asked := by
    intro d' h
    exact h ▸ List.prefix_rfl
  cases op with
  | move m => exact hsame _ (d.asked_move m)
  | deed deed =>
      cases deed with
      | openChannel id =>
          rw [step, suffer]
          split <;> exact hsame _ rfl
      | invoke number r =>
          rw [step, suffer, invoke]
          split
          · exact List.prefix_rfl
          · split
            · exact List.prefix_append ..
            · exact hsame _ rfl
      | take p => exact hsame _ rfl
      | listen number listener => exact hsame _ rfl
      | unlisten number => exact hsame _ rfl
      | takeEvent number => exact hsame _ rfl

theorem asked_prefix_run (d : Dialogue) (ops : List Op) : d.asked <+: (d.run ops).asked := by
  induction ops generalizing d with
  | nil => exact List.prefix_rfl
  | cons op ops ih => exact (d.asked_prefix_step op).trans (ih _)

theorem line_transport {d : Dialogue} (h : d.line.closed = false) (connection : Connection) :
    (d.transport connection).line = connection := by
  show { connection with closed := d.line.closed || connection.closed } = connection
  rw [h, Bool.false_or]

theorem written_eq {s : Service} {l : Line} (h : s.history.lines = [l]) : written s = l.written := by
  rw [written, h]
  rfl

/-! ## Two ends that are joined -/

section

variable (g : Docket) (clientLimit serverLimit : Nat)

/-- The two ends of a stream on which so many requests were written, and so many messages taken of those
that the server has written. -/
structure Joined (d : Dialogue) (k : Docket) (l : Line) (sent come : Nat) : Prop where
  client : ClientSide d.client d.asked (l.written.take come)
  server : ServerSide g serverLimit (d.asked.take sent) d.service k l
  carries : Carries clientLimit (l.written.flatMap Message.encode)
    ((l.written.take come).map Message.plain) d.line
  limit : d.line.limit = clientLimit
  sent_le : sent ≤ d.asked.length
  come_le : come ≤ l.written.length
  clear : ∀ a ∈ d.asked, a.channel.isClear = true ∧ a.request.id = a.pending.id
  served : ∀ number c, d.client.session.standing? number = some c →
    c.id.isClear = true ∧ Serves g c.id
  heard : d.heard = []

/-- The two sides of a dialogue fit together: what the session has queued are the requests that it has yet
to write. -/
def Sound (d : Dialogue) : Prop :=
  ∃ k l sent come, Joined g clientLimit serverLimit d k l sent come ∧
    d.line.outbound = (d.asked.drop sent).map Asked.message

end

theorem sound_start (channels : List ChannelId) (clientLimit serverLimit : Nat) :
    Sound (Service.ground channels [("client", serverLimit)]) clientLimit serverLimit
      (start channels clientLimit serverLimit) := by
  obtain ⟨l, hnone, hserver⟩ := serverSide_start channels "client" serverLimit
  refine ⟨_, l, 0, 0, ⟨?_, hserver, ?_, rfl, Nat.le_refl _, Nat.zero_le _, ?_, ?_, rfl⟩, rfl⟩
  · exact clientSide_start _ none rfl
  · rw [hnone]
    exact .start 0 "server"
  · intro a ha
    cases ha
  · intro number c hc
    cases hc

section

variable {g : Docket} {clientLimit serverLimit : Nat} {d : Dialogue} {k : Docket} {l : Line}
  {sent come : Nat}

namespace Joined

variable (hd : Joined g clientLimit serverLimit d k l sent come)

include hd

/-- The session may do what changes neither its channels nor its connection. -/
theorem withClient {client : Session.History} (hclient : ClientSide client d.asked (l.written.take come))
    (hline : client.session.connection = d.line)
    (hstanding : ∀ number c, client.session.standing? number = some c →
      c.id.isClear = true ∧ Serves g c.id) :
    Joined g clientLimit serverLimit { d with client } k l sent come := by
  have hsame : line { d with client } = d.line := hline
  refine { hd with client := hclient, carries := ?_, limit := ?_, served := hstanding }
  · rw [hsame]
    exact hd.carries
  · rw [hsame]
    exact hd.limit

theorem served_of_untouched {op : Session.Op} (hop : op.touchesChannels = false) :
    ∀ number c, (d.client.step op).session.standing? number = some c →
      c.id.isClear = true ∧ Serves g c.id := by
  intro number c hstanding
  rw [(d.client.keepsChannels_step hop).1.standing] at hstanding
  exact hd.served number c hstanding

/-- The connection of the session may do what keeps what it carries. -/
theorem transport (connection : Connection) (hopen : connection.closed = false)
    (hlimit : connection.limit = clientLimit)
    (hcarries : Carries clientLimit (l.written.flatMap Message.encode)
      ((l.written.take come).map Message.plain) connection) :
    Joined g clientLimit serverLimit (d.transport connection) k l sent come := by
  have hline := line_transport hd.client.connection connection
  refine { hd with
    client := hd.client.transport connection hopen
    carries := ?_
    limit := ?_
    served := hd.served_of_untouched rfl }
  · rw [hline]
    exact hcarries
  · rw [hline]
    exact hlimit

/-! ### The server -/

/-- The requests that were sent are such as the server can take. -/
theorem ready (htravels : ∀ a ∈ d.asked, a.Travels clientLimit serverLimit) :
    Ready g serverLimit d.asked where
  increasing := hd.client.increasing
  speaks := by
    intro a ha
    obtain ⟨hclear, hid⟩ := hd.clear a ha
    exact speaks_of_travels (htravels a ha) hclear hid
  serves := by
    intro a ha
    obtain ⟨number, c, hstanding, hid, -⟩ := hd.client.given a ha
    rw [← hid]
    exact (hd.served number c hstanding).2
  fits := fun a ha m hm => ((htravels a ha).answers_le m hm).2

theorem ready_sent (htravels : ∀ a ∈ d.asked, a.Travels clientLimit serverLimit) :
    Ready g serverLimit (d.asked.take sent) :=
  (hd.ready htravels).of_front (List.take_prefix sent d.asked)

/-- Whatever happens to the server that does not end the stream, what it writes in between has arrived at
the session. -/
theorem serve (hg : g.IsFresh) (hready : Ready g serverLimit (d.asked.take sent)) (op : Service.Op)
    (hop : op.spares 0 = true) (hmade : ∀ peer most, op ≠ .deed (.connect peer most)) {later : Nat}
    (hlater : later ≤ d.asked.length)
    (hbytes : bytesOf (d.asked.take sent) ++ Service.bytesOn 0 [op] = bytesOf (d.asked.take later)) :
    ∃ k' l', Joined g clientLimit serverLimit (d.serve op) k' l' later come ∧
      (d.serve op).line.outbound = d.line.outbound := by
  obtain ⟨k', l', hserver, more, hmore⟩ := hd.server.step hg hready op hop hmade hbytes
  have hopen : d.line.closed = false := hd.client.connection
  have hwriting : isWriting (d.service.step op) = true := by
    rw [isWriting, hserver.apart.streams.connection?_eq]
    exact (hserver.apart.streams.flowing hserver.isOpen).writing
  have hcarry : carry d.line d.service (d.service.step op) =
      d.line.offer (more.flatMap Message.encode) := by
    rw [carry, written_eq hd.server.lines, written_eq hserver.lines, ← hmore, List.drop_left, hwriting]
    rfl
  have hcarries := hd.carries.offer hopen (more.flatMap Message.encode)
  rw [← List.flatMap_append, hmore] at hcarries
  have htake : l.written.take come = l'.written.take come := by
    rw [← hmore, List.take_append_of_le_length hd.come_le]
  have hoffered : (d.line.offer (more.flatMap Message.encode)).closed = d.line.closed ∧
      (d.line.offer (more.flatMap Message.encode)).outbound = d.line.outbound ∧
      (d.line.offer (more.flatMap Message.encode)).limit = d.line.limit := by
    rcases offer_cases d.line (more.flatMap Message.encode) with h | ⟨h, -⟩ <;> rw [h] <;>
      exact ⟨rfl, rfl, rfl⟩
  have hline : (d.serve op).line = d.line.offer (more.flatMap Message.encode) := by
    rw [← hcarry]
    exact line_transport hopen _
  have hclient := hd.client.transport _ (hoffered.1.trans hopen)
  rw [htake] at hclient hcarries
  refine ⟨k', l', ⟨?_, hserver, ?_, ?_, hlater, ?_, hd.clear, ?_, hd.heard⟩, ?_⟩
  · show ClientSide (d.client.step (.transport (carry ..))) _ _
    rw [hcarry]
    exact hclient
  · rw [hline]
    exact hcarries
  · rw [hline, hoffered.2.2]
    exact hd.limit
  · exact Nat.le_trans hd.come_le (hmore ▸ (List.prefix_append ..).length_le)
  · exact hd.served_of_untouched rfl
  · rw [hline, hoffered.2.1]

/-- What the server does of itself keeps the two ends joined. -/
theorem serve_move (hg : g.IsFresh) (htravels : ∀ a ∈ d.asked, a.Travels clientLimit serverLimit)
    (m : Service.Move) :
    ∃ k' l', Joined g clientLimit serverLimit (d.serve (.move m)) k' l' sent come ∧
      (d.serve (.move m)).line.outbound = d.line.outbound :=
  hd.serve hg (hd.ready_sent htravels) (.move m) rfl (fun _ _ => by simp) hd.sent_le (List.append_nil _)

/-! ### The session -/

section

variable (hup : d.line.outbound = (d.asked.drop sent).map Asked.message)

include hup

theorem write_eq {a : Asked} {rest : List Asked} (hdrop : d.asked.drop sent = a :: rest)
    (hfits : a.message.encode.length ≤ clientLimit) :
    d.write = (d.transport { d.line with outbound := rest.map Asked.message }).serve
      (.deed (.send 0 a.message.encode)) := by
  have hencoded : encodeTo d.line.limit a.message [] = .ok a.message.encode := by
    rw [encodeTo, hd.limit, if_pos hfits, List.nil_append]
  rw [hdrop, List.map_cons] at hup
  simp only [Dialogue.write, hd.carries.writing, hup, hencoded, if_true]

/-- The session's writer writes the next request, if there is one. -/
theorem write_cases (hg : g.IsFresh) (htravels : ∀ a ∈ d.asked, a.Travels clientLimit serverLimit) :
    sent = d.asked.length ∧ d.write = d ∨
      sent < d.asked.length ∧ ∃ k' l', Joined g clientLimit serverLimit d.write k' l' (sent + 1) come ∧
        d.write.line.outbound = (d.asked.drop (sent + 1)).map Asked.message := by
  rcases Nat.lt_or_ge sent d.asked.length with hlt | hge
  · refine .inr ⟨hlt, ?_⟩
    have hopen : d.line.closed = false := hd.client.connection
    have hleft := hd.transport { d.line with outbound := (d.asked.drop (sent + 1)).map Asked.message }
      hopen hd.limit (hd.carries.queue _)
    have hready := hd.ready_sent htravels
    have hbytes : bytesOf (d.asked.take sent) ++
        Service.bytesOn 0 [.deed (.send 0 d.asked[sent].message.encode)] =
          bytesOf (d.asked.take (sent + 1)) := by
      rw [List.take_add_one, List.getElem?_eq_getElem hlt, bytesOf, bytesOf, List.flatMap_append]
      exact congrArg _ (by simp [Service.bytesOn])
    obtain ⟨k', l', hd', hsame⟩ := hleft.serve hg hready
      (.deed (.send 0 d.asked[sent].message.encode)) rfl (fun _ _ => by simp) hlt hbytes
    rw [hd.write_eq hup (List.drop_eq_getElem_cons hlt)
      (htravels _ (List.getElem_mem hlt)).length_le]
    refine ⟨k', l', hd', ?_⟩
    rw [hsame, line_transport hopen]
  · have hnone : d.line.outbound = [] := by
      rw [hup, List.drop_of_length_le hge]
      rfl
    refine .inl ⟨Nat.le_antisymm hd.sent_le hge, ?_⟩
    simp only [Dialogue.write, hd.carries.writing, hnone, if_true]

end

/-- What the server has queued comes out of its bytes as it went in. -/
theorem wireSafe_queued (hg : g.IsFresh) (htravels : ∀ a ∈ d.asked, a.Travels clientLimit serverLimit)
    {m : Message} (hm : m ∈ l.queued) : m.WireSafe ∧ m.encode.length ≤ clientLimit := by
  have hready := hd.ready_sent htravels
  obtain ⟨n, c, a, -, ha, hmatches, hscript⟩ := hd.server.mem_queued hg hready hm
  have hmem := List.mem_of_getElem? ha
  refine ⟨hmatches.wireSafe_script (hready.speaks a hmem) hscript, ?_⟩
  obtain ⟨m', hm', hsame⟩ := hmatches.exists_answer hscript
  rw [← hsame]
  exact ((htravels a (List.mem_of_mem_take hmem)).answers_le m' hm').1

/-- The next message that the server has written is the next for its request, and nobody who listens is
told. -/
theorem client_next (hg : g.IsFresh)
    (htravels : ∀ a ∈ d.asked, a.Travels clientLimit serverLimit) {h : Session.History}
    (hh : ClientSide h d.asked (l.written.take come)) {m : Message} (hnext : l.written[come]? = some m) :
    ClientSide (h.step (.receive m.plain)) d.asked (l.written.take (come + 1)) ∧
      (h.session.receive m.plain).2 = none := by
  have hready := hd.ready_sent htravels
  have hmem : m ∈ l.queued := List.mem_append_left _ (List.mem_of_getElem? hnext)
  obtain ⟨n, c, a, hc, ha, hmatches, hscript⟩ := hd.server.mem_queued hg hready hmem
  have hasked : a ∈ d.asked.take sent := List.mem_of_getElem? ha
  have htake : l.written.take (come + 1) = l.written.take come ++ [m] := by
    rw [List.take_add_one, hnext]
    rfl
  -- what has come about the request and this message are the first of its script
  have hwritten : l.written.take come ++ [m] <+: l.queued := by
    rw [← htake]
    exact (List.take_prefix ..).trans (List.prefix_append ..)
  have hfront := hwritten.filter fun m => m.isAbout a.key
  rw [hd.server.filter_queued hg hready ha, hc] at hfront
  have hwhole := (hfront.trans (hd.server.apart.upkeep.messages_prefix_script hc)).map
    fun m => Except.ok (ε := Error) m.plain
  rw [htake]
  exact hh.receive (List.mem_of_mem_take hasked)
    (hmatches.isAbout (hready.speaks a hasked).isClear hscript) hmatches.settled_script hwhole

section

variable (hg : g.IsFresh) (hclient : clientLimit ≤ Natural.max64)
  (htravels : ∀ a ∈ d.asked, a.Travels clientLimit serverLimit)

include hg hclient htravels

theorem drain_written : drain clientLimit false (l.written.flatMap Message.encode) =
    ⟨l.written.map Message.plain, .waiting, []⟩ :=
  drain_flatMap_encode hclient fun _ hm => hd.wireSafe_queued hg htravels (List.mem_append_left _ hm)

/-- A message that is taken is the next one that the server has written. -/
theorem exists_next {m : Message} {rest : Bytes}
    (hdecode : decode clientLimit d.line.intake.buffer = (.ok (some m), rest)) :
    ∃ m', l.written[come]? = some m' ∧ m = m'.plain := by
  have hfront := (hd.carries.takeOut hdecode).front []
  rw [List.append_nil, hd.drain_written hg hclient htravels] at hfront
  have hlength : ((l.written.take come).map Message.plain).length = come := by
    rw [List.length_map, List.length_take, Nat.min_eq_left hd.come_le]
  have hlast := List.prefix_iff_getElem?.mp hfront come (by simp [hd.come_le])
  rw [List.getElem_append_right (Nat.le_of_eq hlength)] at hlast
  rw [List.getElem?_map, List.getElem_singleton] at hlast
  obtain ⟨m', hm', hsame⟩ := Option.map_eq_some_iff.mp hlast
  exact ⟨m', hm', hsame.symm⟩

/-- What comes of a look for a message: the next one is taken, or what was read makes none yet. -/
theorem look_cases :
    (∃ m rest, l.written[come]? = some m ∧
        decode clientLimit d.line.intake.buffer = (.ok (some m.plain), rest) ∧
        d.look = (d.transport (d.line.leave rest)).receive m.plain) ∨
      ∃ rest, decode clientLimit d.line.intake.buffer = (.ok none, rest) ∧
        d.look = d.transport (d.line.leave rest) := by
  rcases hdecode : decode clientLimit d.line.intake.buffer with ⟨fault | m?, rest⟩
  · obtain ⟨other, hfault⟩ := hd.carries.fault hdecode []
    rw [List.append_nil, hd.drain_written hg hclient htravels] at hfault
    cases hfault
  · have hlook : d.look = m?.elim (d.transport (d.line.leave rest))
        (d.transport (d.line.leave rest)).receive := by
      rw [Dialogue.look, hd.carries.isDone, hd.limit, hd.carries.reading, takeFirst,
        if_neg Bool.false_ne_true, hdecode]
      cases m? <;> rfl
    cases m? with
    | none => exact .inr ⟨rest, rfl, hlook⟩
    | some m =>
        obtain ⟨m', hm', rfl⟩ := hd.exists_next hg hclient htravels hdecode
        exact .inl ⟨m', rest, hm', rfl, hlook⟩

/-- The session's reader looks for a message. -/
theorem look : ∃ later, Joined g clientLimit serverLimit d.look k l sent later ∧
    d.look.line.outbound = d.line.outbound := by
  have hopen : d.line.closed = false := hd.client.connection
  rcases hd.look_cases hg hclient htravels with ⟨m, rest, hnext, hdecode, heq⟩ | ⟨rest, hdecode, heq⟩
  · have hleft := hd.client.transport (d.line.leave rest) hopen
    obtain ⟨hcame, hheard⟩ := hd.client_next hg htravels hleft hnext
    have hline : ((d.transport (d.line.leave rest)).receive m.plain).line = d.line.leave rest :=
      (Session.connection_receive ..).trans (line_transport hopen _)
    have hcarries := hd.carries.takeOut hdecode
    rw [heq]
    refine ⟨come + 1, ⟨hcame, hd.server, ?_, ?_, hd.sent_le, ?_, hd.clear, ?_, ?_⟩, ?_⟩
    · rw [hline, List.take_add_one, hnext, List.map_append]
      exact hcarries
    · rw [hline]
      exact hd.limit
    · exact (List.getElem?_eq_some_iff.mp hnext).1
    · intro number c hstanding
      have hleaves : (Session.Op.receive m.plain).touchesChannels = false := rfl
      have hkept := ((d.client.step (.transport (d.line.leave rest))).keepsChannels_step hleaves).1
      exact hd.served_of_untouched rfl number c ((hkept.standing number).symm.trans hstanding)
    · show d.heard ++ _ = []
      rw [hd.heard]
      exact congrArg Option.toList hheard
    · rw [hline]
      rfl
  · rw [heq]
    refine ⟨come, hd.transport _ hopen hd.limit (hd.carries.leave hdecode), ?_⟩
    rw [line_transport hopen]
    rfl

end

/-- The session's reader reads. -/
theorem read (size : Nat) :
    Joined g clientLimit serverLimit (d.transport (d.line.readSome size)) k l sent come ∧
      (d.transport (d.line.readSome size)).line.outbound = d.line.outbound := by
  have hopen : d.line.closed = false := hd.client.connection
  have hsame : (d.line.readSome size).closed = d.line.closed ∧
      (d.line.readSome size).outbound = d.line.outbound ∧
      (d.line.readSome size).limit = d.line.limit := by
    rcases readSome_cases d.line size with ⟨-, h⟩ | ⟨-, -, h⟩ <;> rw [h] <;> exact ⟨rfl, rfl, rfl⟩
  refine ⟨hd.transport _ (hsame.1.trans hopen) (hsame.2.2.trans hd.limit) (hd.carries.readSome size), ?_⟩
  rw [line_transport hopen, hsame.2.1]

theorem quit_eq : d.quit = d := by
  rw [quit, show d.line.closed = false from hd.client.connection]
  rfl

theorem notice_eq : d.notice = d := by
  rw [notice, show d.line.closed = false from hd.client.connection]
  rfl

/-! ### What is asked of the session -/

theorem openChannel {id : ChannelId} (hclear : id.isClear = true) (hserved : d.isServed id = true) :
    Joined g clientLimit serverLimit (d.act (.openChannel id)) k l sent come ∧
      (d.act (.openChannel id)).line = d.line := by
  have hline : (d.client.step (.openChannel id)).session.connection = d.line := by
    rw [Session.History.step]
    cases hresult : d.client.session.openChannel id with
    | error e => rfl
    | ok opened =>
        obtain ⟨-, -, -, hsession⟩ := Session.openChannel_eq_ok hresult
        simp only [hsession]
        rfl
  refine ⟨hd.withClient (hd.client.openChannel id) hline ?_, hline⟩
  intro number c hstanding
  rcases ClientSide.standing?_openChannel d.client id hstanding with rfl | hbefore
  · have hserves := Serves.of_any hd.server.apart.upkeep.mirrors hserved
    exact ⟨hclear, hserves.of_alike hd.server.apart.alike⟩
  · exact hd.served number c hbefore

/-- A request is sent. -/
theorem invoke (hup : d.line.outbound = (d.asked.drop sent).map Asked.message) (number : Nat) (r : Request) :
    Sound g clientLimit serverLimit (d.invoke number r) := by
  unfold Dialogue.invoke
  cases hchannel : d.client.session.channel? number with
  | none => exact ⟨k, l, sent, come, hd, hup⟩
  | some c =>
      obtain ⟨hsent, hline, hcame⟩ := hd.client.invoke hchannel r
      have hclear := (hd.served number _ (Session.standing?_of_channel? hchannel)).1
      simp only [hsent]
      have hsame : ∀ asked, line { d.act (.invoke number r) with asked } =
          { d.line with outbound := d.line.outbound ++ [(Asked.next d.client.session c r).message] } :=
        fun _ => hline
      refine ⟨k, l, sent, come, ⟨hcame, ?_, ?_, ?_, ?_, hd.come_le, ?_, ?_, hd.heard⟩, ?_⟩
      · show ServerSide g serverLimit ((d.asked ++ [_]).take sent) _ _ _
        rw [List.take_append_of_le_length hd.sent_le]
        exact hd.server
      · rw [hsame]
        exact hd.carries.queue _
      · rw [hsame]
        exact hd.limit
      · exact Nat.le_trans hd.sent_le (List.prefix_append ..).length_le
      · intro a ha
        rcases List.mem_append.mp ha with ha | ha
        · exact hd.clear a ha
        · rw [List.mem_singleton.mp ha]
          exact ⟨hclear, rfl⟩
      · intro other c' hstanding'
        obtain ⟨c₀, hbefore, hid⟩ := hd.client.standing?_invoke hchannel r hstanding'
        rw [← hid]
        exact hd.served other c₀ hbefore
      · rw [hsame, List.drop_append_of_le_length hd.sent_le, List.map_append, ← hup]
        rfl

end Joined

/-! ## What requests are told -/

namespace Joined

variable (hd : Joined g clientLimit serverLimit d k l sent come)

include hd

/-- What has come for a request is a front of its script. -/
theorem received (hg : g.IsFresh) (htravels : ∀ a ∈ d.asked, a.Travels clientLimit serverLimit)
    {a : Asked} (ha : a ∈ d.asked) :
    ∃ ms : List Message, d.client.received a.pending.slot = ms.map (fun m => .ok m.plain) ∧
      (ms = [] ∨ ∃ c, Matches c a ∧ ms <+: c.script) := by
  have hready := hd.ready_sent htravels
  refine ⟨_, hd.client.received a ha, ?_⟩
  cases hcame : (l.written.take come).filter fun m => m.isAbout a.key with
  | nil => exact .inl rfl
  | cons m ms =>
      -- a message about the request is there, so the request was written
      obtain ⟨hmem, habout⟩ := List.mem_filter.mp (hcame ▸ List.mem_cons_self ..)
      have hqueued : m ∈ l.queued := List.mem_append_left _ (List.mem_of_mem_take hmem)
      obtain ⟨n, c, b, hc, hb, hmatches, hscript⟩ := hd.server.mem_queued hg hready hqueued
      have hbmem := List.mem_of_getElem? hb
      have habout' := hmatches.isAbout (hready.speaks b hbmem).isClear hscript
      obtain rfl : a = b := List.inj_on_of_nodup_map hd.client.nodup_keys ha (List.mem_of_mem_take hbmem)
        (Message.eq_of_isAbout habout habout')
      have hfront : l.written.take come <+: l.queued :=
        (List.take_prefix ..).trans (List.prefix_append ..)
      have hmessages := hfront.filter fun m => m.isAbout a.key
      rw [hd.server.filter_queued hg hready hb, hc, hcame] at hmessages
      exact .inr ⟨c, hmatches, hmessages.trans (hd.server.apart.upkeep.messages_prefix_script hc)⟩

end Joined

/-! ## Everything that happens -/

namespace Sound

variable (hg : g.IsFresh) (hclient : clientLimit ≤ Natural.max64)

include hg hclient

theorem move (hd : Sound g clientLimit serverLimit d)
    (htravels : ∀ a ∈ d.asked, a.Travels clientLimit serverLimit) (m : Move) :
    Sound g clientLimit serverLimit (d.move m) := by
  obtain ⟨k, l, sent, come, hd, hup⟩ := hd
  cases m with
  | write =>
      rcases hd.write_cases hup hg htravels with ⟨-, hsame⟩ | ⟨-, k', l', hwritten, hup'⟩
      · rw [Dialogue.move, hsame]
        exact ⟨k, l, sent, come, hd, hup⟩
      · refine ⟨k', l', sent + 1, come, hwritten, ?_⟩
        rw [show (d.move .write).asked = d.asked from d.asked_move .write]
        exact hup'
  | quit =>
      rw [Dialogue.move, hd.quit_eq]
      exact ⟨k, l, sent, come, hd, hup⟩
  | read size =>
      obtain ⟨hread, hsame⟩ := hd.read size
      exact ⟨k, l, sent, come, hread, hsame.trans hup⟩
  | look =>
      obtain ⟨later, hlook, hsame⟩ := hd.look hg hclient htravels
      refine ⟨k, l, sent, later, hlook, ?_⟩
      rw [Dialogue.move, hsame, show d.look.asked = d.asked from d.asked_move .look]
      exact hup
  | notice =>
      rw [Dialogue.move, hd.notice_eq]
      exact ⟨k, l, sent, come, hd, hup⟩
  | serve m =>
      obtain ⟨k', l', hserved, hsame⟩ := hd.serve_move hg htravels m
      exact ⟨k', l', sent, come, hserved, hsame.trans hup⟩

/-- Whatever happens, the two sides fit together. -/
theorem step (hd : Sound g clientLimit serverLimit d)
    (htravels : ∀ a ∈ d.asked, a.Travels clientLimit serverLimit) (op : Op) :
    Sound g clientLimit serverLimit (d.step op) := by
  cases op with
  | move m => exact move hg hclient hd htravels m
  | deed deed =>
      obtain ⟨k, l, sent, come, hd, hup⟩ := hd
      cases deed with
      | openChannel id =>
          rw [Dialogue.step, suffer]
          split
          · rename_i hguard
            obtain ⟨hclear, hserved⟩ := Bool.and_eq_true_iff.mp hguard
            obtain ⟨hopened, hline⟩ := hd.openChannel hclear hserved
            exact ⟨k, l, sent, come, hopened, (congrArg Connection.outbound hline).trans hup⟩
          · exact ⟨k, l, sent, come, hd, hup⟩
      | invoke number r => exact hd.invoke hup number r
      | take p =>
          have hline : (d.client.step (.take p)).session.connection = d.line := by
            rw [Session.History.step]
            split <;> rfl
          exact ⟨k, l, sent, come, hd.withClient (hd.client.take p) hline (hd.served_of_untouched rfl),
            (congrArg Connection.outbound hline).trans hup⟩
      | listen number listener =>
          obtain ⟨hlistens, hnone⟩ := hd.client.listen number listener
          have hlistening := hd.withClient hlistens rfl (hd.served_of_untouched rfl)
          refine ⟨k, l, sent, come, { hlistening with heard := ?_ }, hup⟩
          show d.heard ++ (d.client.session.listen number listener).2 = []
          rw [hnone, List.append_nil]
          exact hd.heard
      | unlisten number =>
          exact ⟨k, l, sent, come,
            hd.withClient (hd.client.unlisten number) rfl (hd.served_of_untouched rfl), hup⟩
      | takeEvent number =>
          have hsame : d.act (.takeEvent number) = d := by
            rw [act, hd.client.takeEvent]
          rw [Dialogue.step, suffer, hsame]
          exact ⟨k, l, sent, come, hd, hup⟩

theorem run (hd : Sound g clientLimit serverLimit d) (ops : List Op)
    (htravels : ∀ a ∈ (d.run ops).asked, a.Travels clientLimit serverLimit) :
    Sound g clientLimit serverLimit (d.run ops) := by
  induction ops generalizing d with
  | nil => exact hd
  | cons op ops ih =>
      refine ih (step hg hclient hd (fun a ha => ?_) op) htravels
      exact htravels a ((d.asked_prefix_run (op :: ops)).subset ha)

end Sound

end

end MediaControl.Dialogue
