import MediaControl.Proofs.Client.Callers
import MediaControl.Proofs.Client.Channels

/-!
# The numbering of requests (SPEC_FULL §3)

Every channel of a session numbers its own requests from one on.  So the requests that are sent under one
key have increasing ids for as long as only one channel was ever opened with that key; a channel that is
opened in the place of one that was closed begins again.

Main statements: `ids_increase` and `reopened_ids_repeat`.
-/

set_option autoImplicit false

namespace MediaControl

open Correlator (Ledger)

/-! ## The last id that a server has seen -/

/-- The ids of the requests that came in on one connection, among all that came in for a channel. -/
def idsOn (connection : Nat) (arrivals : List (Nat × Message)) : List Nat :=
  arrivals.filterMap fun arrival =>
    match arrival.2 with
    | .request r => if arrival.1 = connection then some r.id else none
    | _ => none

namespace ServerChannel

/-- Messages come in for the channel one after the other, on any connections. -/
def receiveAll (c : ServerChannel) (arrivals : List (Nat × Message)) : ServerChannel :=
  arrivals.foldl (fun c arrival => (c.receive arrival.1 arrival.2).1) c

variable {c : ServerChannel} {line last : Nat}

/-- The last id on a connection is that of a request that came in on it. -/
theorem lastIds_receive {arrival : Nat × Message}
    (h : (c.receive arrival.1 arrival.2).1.lastIds.get? line = some last) :
    c.lastIds.get? line = some last ∨ last ∈ idsOn line [arrival] := by
  obtain ⟨connection, m⟩ := arrival
  cases m with
  | request r =>
      simp only [receive] at h
      split at h
      · rw [advance, Table.get?_insert] at h
        split at h
        · rename_i hline
          cases h
          refine Or.inr ?_
          simp [idsOn, hline]
        · exact Or.inl h
      · exact Or.inl h
  | response r => exact Or.inl h
  | event e => exact Or.inl h

theorem lastIds_receiveAll {arrivals : List (Nat × Message)}
    (h : (c.receiveAll arrivals).lastIds.get? line = some last) :
    c.lastIds.get? line = some last ∨ last ∈ idsOn line arrivals := by
  induction arrivals generalizing c with
  | nil => exact Or.inl h
  | cons arrival arrivals ih =>
      have hsplit : idsOn line (arrival :: arrivals) =
          idsOn line [arrival] ++ idsOn line arrivals := List.filterMap_append (l := [arrival])
      rw [hsplit]
      rcases ih h with hfirst | hlater
      · rcases lastIds_receive hfirst with hold | hnew
        · exact Or.inl hold
        · exact Or.inr (List.mem_append_left _ hnew)
      · exact Or.inr (List.mem_append_right _ hlater)

/-- A request whose id exceeds all that came in on its connection is not refused for its id. -/
theorem isLate_receive_of_increasing (hnone : c.lastIds.get? line = none)
    {before : List (Nat × Message)} {r : Request}
    (hincreasing : (idsOn line before ++ [r.id]).Pairwise (· < ·)) :
    ((c.receiveAll before).receive line (.request r)).2.isLate = false := by
  have hadvance : (c.receiveAll before).isAdvance line r.id ≠ false := by
    rw [ne_eq, isAdvance_eq_false_iff]
    intro ⟨last, hlast, hle⟩
    rcases lastIds_receiveAll hlast with hstart | hcame
    · rw [hnone] at hstart
      cases hstart
    · have hlt := (List.pairwise_append.mp hincreasing).2.2 last hcame r.id (List.mem_singleton_self _)
      exact absurd hlt (Nat.not_lt.mpr hle)
  rw [receive, if_pos (Bool.eq_true_of_not_eq_false hadvance)]
  exact isLate_judge _ _ _

end ServerChannel

namespace Session

/-- The channels that were opened are there still, and none has gone back to an earlier id. -/
def Outlasts (s' s : Session) : Prop :=
  ∀ number c, s.standing? number = some c →
    ∃ c', s'.standing? number = some c' ∧ c'.id = c.id ∧ c.nextId ≤ c'.nextId

/-- No two channels with that key were ever opened. -/
def OpenedOnce (s : Session) (key : String) : Prop :=
  ∀ number other c c', s.standing? number = some c → s.standing? other = some c' →
    c.id.key = key → c'.id.key = key → number = other

variable {s s' : Session} {number : Nat} {c : ClientChannel}

theorem OpenedOnce.of_outlasts {key : String} (h : s'.OpenedOnce key) (hlast : s'.Outlasts s) :
    s.OpenedOnce key := by
  intro number other c c' hc hc' hkey hkey'
  obtain ⟨d, hd, hid, -⟩ := hlast number c hc
  obtain ⟨d', hd', hid', -⟩ := hlast other c' hc'
  exact h number other d d' hd hd' (hid ▸ hkey) (hid' ▸ hkey')

theorem Outlasts.refl (s : Session) : s.Outlasts s := by
  intro number c hc
  exact ⟨c, hc, rfl, Nat.le_refl _⟩

theorem Outlasts.trans {s₁ s₂ s₃ : Session} (h : s₃.Outlasts s₂) (h' : s₂.Outlasts s₁) :
    s₃.Outlasts s₁ := by
  intro number c hc
  obtain ⟨d, hd, hid, hle⟩ := h' number c hc
  obtain ⟨e, he, hid', hle'⟩ := h number d hd
  exact ⟨e, he, hid'.trans hid, Nat.le_trans hle hle'⟩

theorem KeepsChannels.outlasts (h : KeepsChannels s s') : s'.Outlasts s := by
  intro number c hc
  exact ⟨c, (h.standing number).trans hc, rfl, Nat.le_refl _⟩

theorem outlasts_openChannel {id : ChannelId} (h : s.openChannel id = .ok (number, s')) :
    s'.Outlasts s := by
  obtain ⟨-, -, -, rfl⟩ := openChannel_eq_ok h
  intro other c hc
  refine ⟨c, ?_, rfl, Nat.le_refl _⟩
  exact (s.standing?_append id other).trans ((if_neg (ne_length_of_standing? hc)).trans hc)

theorem outlasts_closeChannel (s : Session) (number : Nat) : (s.closeChannel number).Outlasts s := by
  rcases s.closeChannel_cases number with hsame | ⟨c, hclosed⟩
  · rw [hsame]
    exact .refl s
  · intro other d hd
    by_cases hother : number = other
    · subst hother
      rw [standing?_of_channel? hclosed.channel] at hd
      cases hd
      exact ⟨_, hclosed.self, rfl, Nat.le_refl _⟩
    · exact ⟨d, (hclosed.others other hother).trans hd, rfl, Nat.le_refl _⟩

theorem outlasts_takeId (hc : s.channel? number = some c)
    (hsame : KeepsChannels (s.modify number fun c => { c with nextId := c.nextId + 1 }) s') :
    s'.Outlasts s := by
  intro other d hd
  by_cases hother : number = other
  · subst hother
    rw [standing?_of_channel? hc] at hd
    cases hd
    exact ⟨_, standing?_takeId hc hsame, rfl, Nat.le_succ _⟩
  · refine ⟨d, ?_, rfl, Nat.le_refl _⟩
    rw [hsame.standing, standing?_modify_of_ne s hother, hd]

namespace History

variable {h h' : History}

theorem Opened.outlasts (hopened : h.Opened h') : h'.session.Outlasts h.session := by
  cases hopened with
  | refused => exact .refl _
  | opened hopened => exact outlasts_openChannel hopened

theorem Invoked.outlasts (hinvoked : h.Invoked number h') : h'.session.Outlasts h.session := by
  cases hinvoked with
  | absent hc => exact .refl _
  | refused hc hclosed => exact .refl _
  | queued hc hopen hconnection hid hslot hsame hcorrelator => exact outlasts_takeId hc hsame
  | withdrawn hc hopen hsame hcorrelator => exact outlasts_takeId hc hsame

theorem outlasts_step (h : History) (op : Op) : (h.step op).session.Outlasts h.session := by
  cases op with
  | openChannel id => exact (h.openChannel_cases id).outlasts
  | openNamed text => exact (h.openNamed_cases text).outlasts
  | closeChannel number => exact h.session.outlasts_closeChannel number
  | invoke number r => exact (h.invoke_cases number r).outlasts
  | _ => exact (h.keepsChannels_step rfl).1.outlasts

theorem outlasts_run (h : History) (ops : List Op) : (h.run ops).session.Outlasts h.session := by
  induction ops generalizing h with
  | nil => exact .refl _
  | cons op ops ih => exact (ih (h.step op)).trans (h.outlasts_step op)

/-- The ids of the requests that were sent under a key, oldest first. -/
def idsUnder (h : History) (key : String) : List Nat :=
  ((h.sent.filter fun w => w.channel = key).map fun w => w.pending.id).reverse

/-- The ids under the key of one channel increase, up to its next id. -/
def Numbered (h : History) : Prop :=
  ∀ key, h.session.OpenedOnce key → (h.idsUnder key).Pairwise (· < ·) ∧
    ∀ id ∈ h.idsUnder key, ∃ number c, h.session.standing? number = some c ∧ c.id.key = key ∧
      id < c.nextId

theorem numbered_start (connection : Connection) (limit? : Option Nat) :
    Numbered { session := { connection, limit? } } := by
  intro key _
  refine ⟨List.Pairwise.nil, ?_⟩
  intro id hid
  cases hid

/-- Nothing changes for the requests that were sent. -/
theorem Numbered.of_outlasts (hn : h.Numbered) (hlast : h'.session.Outlasts h.session)
    (hsent : h'.sent = h.sent) : h'.Numbered := by
  intro key honce
  rw [idsUnder, hsent]
  obtain ⟨hincreasing, hbelow⟩ := hn key (honce.of_outlasts hlast)
  refine ⟨hincreasing, ?_⟩
  intro id hid
  obtain ⟨number, c, hc, hkey, hlt⟩ := hbelow id hid
  obtain ⟨c', hc', hid', hle⟩ := hlast number c hc
  exact ⟨number, c', hc', hid' ▸ hkey, Nat.lt_of_lt_of_le hlt hle⟩

theorem idsUnder_cons (h : History) (session : Session) (w : Sent) (key : String) :
    idsUnder { h with session, sent := w :: h.sent } key =
      h.idsUnder key ++ if w.channel = key then [w.pending.id] else [] := by
  unfold idsUnder
  by_cases hkey : w.channel = key
  · simp [hkey]
  · simp [hkey]

/-- A request is sent under the next id of its channel. -/
theorem Numbered.queued (hn : h.Numbered) {number : Nat} {c : ClientChannel} {p : Pending}
    {session : Session} (hc : h.session.channel? number = some c) (hid : p.id = c.nextId)
    (hsame : KeepsChannels (h.session.modify number fun c => { c with nextId := c.nextId + 1 })
      session) :
    Numbered { h with session, sent := ⟨c.id.key, p⟩ :: h.sent } := by
  have hlast := outlasts_takeId hc hsame
  intro key honce
  obtain ⟨hincreasing, hbelow⟩ := hn key (honce.of_outlasts hlast)
  have hkept : Numbered { h with session } := hn.of_outlasts hlast rfl
  have hbefore := hkept key honce
  rw [idsUnder_cons]
  by_cases hkey : c.id.key = key
  · rw [if_pos hkey]
    refine ⟨?_, ?_⟩
    · rw [List.pairwise_append]
      refine ⟨hincreasing, List.pairwise_singleton .., ?_⟩
      intro id hmem next hnext
      obtain ⟨other, c', hc', hkey', hlt⟩ := hbelow id hmem
      have hother : other = number := honce.of_outlasts hlast other number c' c.standing hc'
        (standing?_of_channel? hc) hkey' hkey
      subst hother
      rw [standing?_of_channel? hc] at hc'
      cases hc'
      rw [List.mem_singleton.mp hnext, hid]
      exact hlt
    · intro id hmem
      rcases List.mem_append.mp hmem with hmem | hmem
      · exact hbefore.2 id hmem
      · rw [List.mem_singleton.mp hmem, hid]
        exact ⟨number, _, standing?_takeId hc hsame, hkey, Nat.lt_succ_self _⟩
  · rw [if_neg hkey, List.append_nil]
    exact hbefore

theorem Numbered.invoked (hn : h.Numbered) (hinvoked : h.Invoked number h') : h'.Numbered := by
  have hlast := hinvoked.outlasts
  cases hinvoked with
  | absent hc => exact hn
  | refused hc hclosed => exact hn
  | queued hc hopen hconnection hid hslot hsame hcorrelator => exact hn.queued hc hid hsame
  | withdrawn hc hopen hsame hcorrelator => exact hn.of_outlasts hlast rfl

theorem Numbered.step (hn : h.Numbered) (op : Op) : (h.step op).Numbered := by
  cases hop : op.isInvoke with
  | false => exact hn.of_outlasts (h.outlasts_step op) (h.sent_step hop)
  | true =>
      cases op with
      | invoke number r => exact hn.invoked (h.invoke_cases number r)
      | _ => cases hop

theorem Numbered.run (hn : h.Numbered) (ops : List Op) : (h.run ops).Numbered := by
  induction ops generalizing h with
  | nil => exact hn
  | cons op ops ih => exact ih (hn.step op)

/-- Two requests under the key of one channel do not have one id. -/
theorem Numbered.eq_of_id (hn : h.Numbered) {key : String} (honce : h.session.OpenedOnce key)
    {w w' : Sent} (hw : w ∈ h.sent) (hw' : w' ∈ h.sent) (hkey : w.channel = key)
    (hkey' : w'.channel = key) (hid : w.pending.id = w'.pending.id) : w = w' := by
  have hnodup : ((h.sent.filter fun w => w.channel = key).map fun w => w.pending.id).Nodup := by
    rw [← List.nodup_reverse]
    exact (hn key honce).1.imp Nat.ne_of_lt
  have hmem : ∀ {w : Sent}, w ∈ h.sent → w.channel = key →
      w ∈ h.sent.filter fun w => w.channel = key := by
    intro w hw hkey
    exact List.mem_filter.mpr ⟨hw, decide_eq_true hkey⟩
  exact List.inj_on_of_nodup_map hnodup (hmem hw hkey) (hmem hw' hkey') hid

/-! ## What follows from increasing ids -/

/-- A message that names another key or id than a request does is not put into its slot. -/
theorem Sound.received_receive_of_ne (hs : h.Sound) {w : Sent} (hw : w ∈ h.sent) {m : Message}
    (hother : ∀ channel, m.channelId = .ok channel → (channel.key, m.id) ≠ w.key) :
    (h.step (.receive m)).received w.slot = h.received w.slot := by
  obtain ⟨issued, hledger⟩ := hs.ledger
  have hcorrelator := (h.session.receive_cases m).2
  have hreceived : (h.step (.receive m)).received w.slot =
      Ledger.received ⟨(h.session.receive m).1.correlator, issued, h.gone⟩ w.slot := rfl
  rw [hreceived]
  rcases hcorrelator with hsame | hhandled
  · rw [hsame]
    rfl
  · rw [hhandled]
    have hcases := h.session.correlator.handle_cases m
    generalize h.session.correlator.handle m = result at hcases
    cases hcases with
    | returned => rfl
    | struckOut hchannel hentry hslot => rfl
    | @taken channel o ends hchannel hentry hslot hfits =>
        refine ((h.ledger issued).received_push (.ok m) hslot _).2 w.slot ?_
        -- the slot of the entry is not that of the request: its key is another
        intro hsame
        have hheld : h.IsHeld w := by
          rw [IsHeld, hsame]
          exact hslot
        rcases hs.sent w hw hheld with ⟨o', hentry', hslot'⟩ | hsettled
        · have hkey := hledger.distinct.slots _ w.key o o' hentry hentry' (hslot'.trans hsame).symm
          exact hother channel hchannel hkey
        · have hprogress := (hledger.entry _ o hentry).2
          rw [← hsame] at hprogress
          exact hprogress.not_settled hsettled

/-- Over every run of a session, the ids of the requests that were queued under a key strictly increase,
if only one channel was ever opened with that key.  So a server channel that has seen no others on the
connection refuses none of them for its id, whatever comes in on other connections, and an answer to one
of them is not taken for the answer to another. -/
theorem ids_increase (connection : Connection) (limit? : Option Nat) (ops : List Op) {key : String}
    (honce : (run { session := { connection, limit? } } ops).session.OpenedOnce key) :
    let h := run { session := { connection, limit? } } ops
    (h.idsUnder key).Pairwise (· < ·) ∧
      (∀ (c : ServerChannel) (line : Nat), c.lastIds.get? line = none →
        ∀ (before : List (Nat × Message)) (r : Request),
          (idsOn line before ++ [r.id]).Sublist (h.idsUnder key) →
          ((c.receiveAll before).receive line (.request r)).2.isLate = false) ∧
      ∀ w ∈ h.sent, ∀ w' ∈ h.sent, w.channel = key → w'.channel = key → w ≠ w' →
        ∀ (m : Message) (channel : ChannelId), m.channelId = .ok channel →
          (channel.key, m.id) = w.key →
          (h.step (.receive m)).received w'.slot = h.received w'.slot := by
  intro h
  have hn : h.Numbered := (numbered_start connection limit?).run ops
  have hs : h.Sound := (sound_start connection limit?).run ops
  have hincreasing : (h.idsUnder key).Pairwise (· < ·) := (hn key honce).1
  refine ⟨hincreasing, ?_, ?_⟩
  · intro c line hnone before r hsub
    exact ServerChannel.isLate_receive_of_increasing hnone (hincreasing.sublist hsub)
  · intro w hw w' hw' hkey hkey' hne m channel hchannel hnamed
    refine hs.received_receive_of_ne hw' ?_
    intro channel' hchannel' hnamed'
    rw [hchannel] at hchannel'
    cases hchannel'
    have hids : w.pending.id = w'.pending.id := congrArg Prod.snd (hnamed.symm.trans hnamed')
    exact hne (hn.eq_of_id honce hw hw' hkey hkey' hids)

/-! ## A channel in the place of another -/

/-- A channel. -/
def repeatedChannel : ChannelId := ⟨"c", .speechSynth, (by decide : ¬ Text.trim "c" = "")⟩

/-- A request on the channel. -/
def repeatedRequest (id : Nat) : Request := { Request.new .setParams repeatedChannel with id }

/-- A connection of a client. -/
def repeatedConnection : Connection := { id := 0, peer := "server" }

/-- Two requests are sent on the channel. -/
def repeatedOps : List Op :=
  [.openChannel repeatedChannel, .invoke 0 (repeatedRequest 0), .invoke 0 (repeatedRequest 0)]

theorem openedOnce_repeatedOps :
    (run { session := { connection := repeatedConnection } } repeatedOps).session.OpenedOnce "c" := by
  have hchannels : (run { session := { connection := repeatedConnection } }
      repeatedOps).session.channels.length = 1 := by rfl
  have hzero : ∀ number c, (run { session := { connection := repeatedConnection } }
      repeatedOps).session.standing? number = some c → number = 0 := by
    intro number c hc
    obtain ⟨d, hd, -⟩ := Option.map_eq_some_iff.mp hc
    have hlt := (List.getElem?_eq_some_iff.mp hd).1
    rw [hchannels] at hlt
    exact Nat.lt_one_iff.mp hlt
  intro number other c c' hc hc' _ _
  rw [hzero number c hc, hzero other c' hc']

/-- Their ids increase, and a server that has taken the first does not refuse the second for its id. -/
theorem ids_increase_repeated :
    (run { session := { connection := repeatedConnection } } repeatedOps).session.OpenedOnce "c" ∧
      ((run { session := { connection := repeatedConnection } } repeatedOps).idsUnder "c").Pairwise
        (· < ·) ∧
      ((Calls.sharedServer.receiveAll [(0, .request (repeatedRequest 1))]).receive 0
        (.request (repeatedRequest 2))).2.isLate = false := by
  have hids := ids_increase repeatedConnection none repeatedOps openedOnce_repeatedOps
  refine ⟨openedOnce_repeatedOps, hids.1, ?_⟩
  exact hids.2.1 Calls.sharedServer 0 (by rfl) [(0, .request (repeatedRequest 1))] (repeatedRequest 2)
    (List.Sublist.refl [1, 2])

/-- A request is sent, the channel is closed and opened again, and another request is sent. -/
def reopenedOps : List Op :=
  [.openChannel repeatedChannel, .invoke 0 (repeatedRequest 0), .closeChannel 0,
    .openChannel repeatedChannel, .invoke 1 (repeatedRequest 0)]

/-- The server with the channel, after the first of those requests has come in. -/
def reopenedServer : Server :=
  let server : Server := Server.register {} repeatedChannel (Demo.handlers .speechSynth)
  (server.receive 0 (.request (repeatedRequest 1))).1

/-- A late answer to the first of those requests. -/
def lateAnswer : Message := .response (.new 1 .success .complete repeatedChannel)

/-- Both requests have the same id.  A server that kept the channel open refuses the second for it, and a
late answer to the first is taken for the answer to the second. -/
theorem reopened_ids_repeat :
    let h := run { session := { connection := repeatedConnection } } reopenedOps
    h.idsUnder "c" = [1, 1] ∧
    h.session.connection.outbound =
      [.request (repeatedRequest 1), .request (repeatedRequest 1)] ∧
    (reopenedServer.receive 0 (.request (repeatedRequest 1))).2 =
      .rejected (.new 1 .nonMonotonicSequence .complete repeatedChannel) ∧
    (h.sent.map Sent.slot = [1, 0]) ∧ h.received 1 = [] ∧
    (h.step (.receive lateAnswer)).received 1 = [.ok lateAnswer] := by
  refine ⟨by rfl, by rfl, by rfl, by rfl, by rfl, by rfl⟩

end History

end Session

end MediaControl
