import MediaControl.Proofs.Client.Numbering
import MediaControl.Proofs.Dialogue.Basic

/-!
# The session's side of a dialogue

Nothing is closed and nobody lets go of a request, so the slot of a request has been given exactly what
came in about the request, and a request has its entry until it is over.  A message that is next of all
that comes for a request is put into its slot, and no listener is told.

Main statements: `ClientSide.invoke`, `ClientSide.receive`, and `ClientSide.pending_eq_zero` (when every
request is over, none is outstanding).
-/

set_option autoImplicit false

namespace MediaControl.Dialogue

open Correlator (Ledger Progress Settled advance fits get?_advance)

open Session (History KeepsChannels)

/-- A session in which these requests were sent and these messages have come in. -/
structure ClientSide (h : History) (asked : List Asked) (delivered : List Message) : Prop where
  sound : h.Sound
  connection : h.session.connection.closed = false
  isOpen : ∀ number c, h.session.standing? number = some c → c.isClosed = false
  unsolicited : ∀ number c, h.session.channel? number = some c → c.unsolicited.items = []
  nextSlot : h.session.correlator.nextSlot = asked.length
  slots : asked.map (fun a => a.pending.slot) = List.range asked.length
  sent : ∀ a ∈ asked, a.sent ∈ h.sent
  held : ∀ a ∈ asked, h.session.correlator.slots.contains a.pending.slot = true
  given : ∀ a ∈ asked, ∃ number c, h.session.standing? number = some c ∧ c.id = a.channel ∧
    a.pending.id < c.nextId
  increasing : asked.Pairwise fun a b => a.channel.key = b.channel.key → a.pending.id < b.pending.id
  about : ∀ m ∈ delivered, ∃ a ∈ asked, m.isAbout a.key = true
  received : ∀ a ∈ asked, h.received a.pending.slot =
    (delivered.filter fun m => m.isAbout a.key).map fun m => .ok m.plain
  entry : ∀ key o, h.session.correlator.entries.get? key = some o →
    ∃ a ∈ asked, a.key = key ∧ a.pending.slot = o.slot

theorem clientSide_start (connection : Connection) (limit? : Option Nat)
    (hconnection : connection.closed = false) :
    ClientSide { session := { connection, limit? } } [] [] where
  sound := History.sound_start connection limit?
  connection := hconnection
  isOpen := by
    intro number c hc
    cases hc
  unsolicited := by
    intro number c hc
    cases hc
  nextSlot := rfl
  slots := rfl
  sent := by
    intro a ha
    cases ha
  held := by
    intro a ha
    cases ha
  given := by
    intro a ha
    cases ha
  increasing := List.Pairwise.nil
  about := by
    intro m hm
    cases hm
  received := by
    intro a ha
    cases ha
  entry := by
    intro key o ho
    cases ho

namespace ClientSide

variable {h h' : History} {asked : List Asked} {delivered : List Message}

theorem eq_of_slot (hc : ClientSide h asked delivered) {a b : Asked} (ha : a ∈ asked) (hb : b ∈ asked)
    (hslot : a.pending.slot = b.pending.slot) : a = b := by
  have hnodup : (asked.map fun a => a.pending.slot).Nodup := by
    rw [hc.slots]
    exact List.nodup_range
  exact List.inj_on_of_nodup_map hnodup ha hb hslot

theorem gaveOut (hc : ClientSide h asked delivered) {a : Asked} (ha : a ∈ asked) :
    h.session.GaveOut a.key := by
  obtain ⟨number, c, hstanding, hid, hlt⟩ := hc.given a ha
  have hget := (hc.sound.table a.channel.key number).mpr
    ⟨c, hstanding, hc.isOpen number c hstanding, congrArg ChannelId.key hid⟩
  exact ⟨number, c, hget, hstanding, hlt⟩

/-! ## Operations that neither send nor receive -/

/-- An operation that leaves channels and correlator alone, or only takes out of a slot, changes
nothing. -/
theorem keep (hc : ClientSide h asked delivered) (hsound : h'.Sound)
    (hsame : KeepsChannels h.session h'.session) (hsent : h'.sent = h.sent)
    (hconnection : h'.session.connection.closed = false)
    (hunsolicited : ∀ number c, h'.session.channel? number = some c → c.unsolicited.items = [])
    (hnext : h'.session.correlator.nextSlot = h.session.correlator.nextSlot)
    (hentries : h'.session.correlator.entries = h.session.correlator.entries)
    (hheld : ∀ slot, h'.session.correlator.slots.contains slot =
      h.session.correlator.slots.contains slot)
    (hreceived : ∀ slot, h'.received slot = h.received slot) : ClientSide h' asked delivered where
  sound := hsound
  connection := hconnection
  isOpen := by
    intro number c hstanding
    rw [hsame.standing] at hstanding
    exact hc.isOpen number c hstanding
  unsolicited := hunsolicited
  nextSlot := hnext.trans hc.nextSlot
  slots := hc.slots
  sent := fun a ha => hsent ▸ hc.sent a ha
  held := fun a ha => (hheld _).trans (hc.held a ha)
  given := by
    intro a ha
    obtain ⟨number, c, hstanding, hid, hlt⟩ := hc.given a ha
    exact ⟨number, c, (hsame.standing number).trans hstanding, hid, hlt⟩
  increasing := hc.increasing
  about := hc.about
  received := fun a ha => (hreceived _).trans (hc.received a ha)
  entry := by
    intro key o ho
    rw [hentries] at ho
    exact hc.entry key o ho

/-- Changing one channel leaves nothing waiting anywhere, if it leaves nothing waiting there. -/
theorem unsolicited_modify (hc : ClientSide h asked delivered) (number : Nat)
    {f : ClientChannel → ClientChannel}
    (hf : ∀ c, c.unsolicited.items = [] → (f c).unsolicited.items = []) (other : Nat)
    (c : ClientChannel) (hchannel : (h.session.modify number f).channel? other = some c) :
    c.unsolicited.items = [] := by
  rw [Session.channel?_modify] at hchannel
  split at hchannel
  · obtain ⟨c₀, hc₀, rfl⟩ := Option.map_eq_some_iff.mp hchannel
    exact hf c₀ (hc.unsolicited other c₀ hc₀)
  · exact hc.unsolicited other c hchannel

theorem openChannel (hc : ClientSide h asked delivered) (id : ChannelId) :
    ClientSide (h.step (.openChannel id)) asked delivered := by
  have hsound := hc.sound.step (.openChannel id)
  rw [History.step] at hsound ⊢
  cases hopened : h.session.openChannel id with
  | error e => exact hc
  | ok opened =>
      rw [hopened] at hsound
      have hlast := Session.outlasts_openChannel hopened
      obtain ⟨-, -, -, hsession⟩ := Session.openChannel_eq_ok hopened
      simp only [hsession] at hsound hlast ⊢
      refine { hc with sound := hsound, isOpen := ?_, unsolicited := ?_, given := ?_ }
      · intro number c hstanding
        have happend := hstanding.symm.trans (h.session.standing?_append id number)
        split at happend
        · rw [Option.some.inj happend]
        · exact hc.isOpen number c happend.symm
      · intro number c hchannel
        rcases List.mem_append.mp (List.mem_of_getElem? hchannel) with hmem | hmem
        · obtain ⟨other, hother⟩ := List.getElem?_of_mem hmem
          exact hc.unsolicited other c hother
        · rw [List.mem_singleton.mp hmem]
      · intro a ha
        obtain ⟨number, c, hstanding, hid, hlt⟩ := hc.given a ha
        obtain ⟨c', hstanding', hid', hle⟩ := hlast number c hstanding
        exact ⟨number, c', hstanding', hid'.trans hid, Nat.lt_of_lt_of_le hlt hle⟩

/-- Opening a channel opens no other. -/
theorem standing?_openChannel (h : History) (id : ChannelId) {number : Nat} {c : Standing}
    (hstanding : (h.step (.openChannel id)).session.standing? number = some c) :
    c.id = id ∨ h.session.standing? number = some c := by
  rw [History.step] at hstanding
  cases hopened : h.session.openChannel id with
  | error e =>
      rw [hopened] at hstanding
      exact .inr hstanding
  | ok opened =>
      rw [hopened] at hstanding
      obtain ⟨-, -, -, hsession⟩ := Session.openChannel_eq_ok hopened
      simp only [hsession] at hstanding
      have happend := hstanding.symm.trans (h.session.standing?_append id number)
      split at happend
      · rw [Option.some.inj happend]
        exact .inl rfl
      · exact .inr happend.symm

theorem take (hc : ClientSide h asked delivered) (p : Pending) :
    ClientSide (h.step (.take p)) asked delivered := by
  have hsound := hc.sound.step (.take p)
  have hreceived := Ledger.received_take (h.ledger []) p.slot
  rw [History.step] at hsound ⊢
  cases htake : h.session.correlator.take? p.slot with
  | none => exact hc
  | some taken =>
      obtain ⟨item, correlator⟩ := taken
      rw [htake] at hsound
      have hledger : (h.ledger []).correlator.take? p.slot = some (item, correlator) := htake
      simp only [Ledger.step, hledger] at hreceived
      obtain ⟨items, hline, rfl⟩ := Ledger.take?_eq_some htake
      refine hc.keep hsound (h.session.keepsChannels_correlator _) rfl hc.connection hc.unsolicited
        rfl rfl ?_ hreceived
      intro slot
      simp only [Table.contains, Table.get?_insert]
      split
      · rename_i hslot
        rw [hslot, hline]
        rfl
      · rfl

theorem transport (hc : ClientSide h asked delivered) (connection : Connection)
    (hopen : connection.closed = false) :
    ClientSide (h.step (.transport connection)) asked delivered := by
  have hclosed : (h.step (.transport connection)).session.connection.closed = false := by
    rw [History.step]
    simp only [hc.connection, hopen, Bool.or_self]
  exact hc.keep (hc.sound.step _) (h.keepsChannels_step rfl).1 rfl hclosed hc.unsolicited rfl rfl
    (fun _ => rfl) fun _ => rfl

/-- Whoever begins to listen has been missed by nothing. -/
theorem listen (hc : ClientSide h asked delivered) (number : Nat) (listener : String) :
    ClientSide (h.step (.listen number listener)) asked delivered ∧
      (h.session.listen number listener).2 = [] := by
  have hwaiting : ((h.session.channel? number).map fun c => c.unsolicited.items).getD [] = [] := by
    cases hchannel : h.session.channel? number with
    | none => rfl
    | some c => exact hc.unsolicited number c hchannel
  refine ⟨?_, ?_⟩
  · refine hc.keep (hc.sound.step _) (h.keepsChannels_step rfl).1 rfl hc.connection ?_ rfl rfl
      (fun _ => rfl) fun _ => rfl
    refine hc.unsolicited_modify number ?_
    intro c _
    rw [hwaiting]
    rfl
  · rw [Session.listen, hwaiting]
    rfl

theorem unlisten (hc : ClientSide h asked delivered) (number : Nat) :
    ClientSide (h.step (.unlisten number)) asked delivered :=
  hc.keep (hc.sound.step _) (h.keepsChannels_step rfl).1 rfl hc.connection
    (hc.unsolicited_modify number fun _ hnone => hnone) rfl rfl (fun _ => rfl) fun _ => rfl

/-- There are no events to be had. -/
theorem takeEvent (hc : ClientSide h asked delivered) (number : Nat) :
    h.step (.takeEvent number) = h := by
  have hnone : h.session.takeEvent? number = none := by
    unfold Session.takeEvent?
    cases hchannel : h.session.channel? number with
    | none => rfl
    | some c =>
        have hitems := hc.unsolicited number c hchannel
        rw [Option.bind_some, Mailbox.take?, hitems]
  rw [History.step, hnone]

/-! ## Sending -/

theorem nodup_keys (hc : ClientSide h asked delivered) : (asked.map Asked.key).Nodup := by
  rw [List.Nodup, List.pairwise_map]
  refine hc.increasing.imp ?_
  intro a b hlt hkey
  obtain ⟨hchannel, hid⟩ := Prod.mk.inj hkey
  exact Nat.ne_of_lt (hlt hchannel) hid

section invoke

variable {number : Nat} {c : ClientChannel}

/-- The next id on the channel is larger than those of all requests on it. -/
theorem id_lt_nextId (hc : ClientSide h asked delivered) (hchannel : h.session.channel? number = some c)
    {a : Asked} (ha : a ∈ asked) (hkey : a.channel.key = c.id.key) : a.pending.id < c.nextId := by
  have hstanding := Session.standing?_of_channel? hchannel
  have hget := hc.sound.table.get?_of_channel? hchannel (hc.isOpen number _ hstanding)
  obtain ⟨other, c', hget', hstanding', hlt⟩ := hc.gaveOut ha
  have hnumber : other = number := by
    rw [Asked.key, hkey, hget] at hget'
    exact (Option.some.inj hget').symm
  rw [hnumber, hstanding] at hstanding'
  cases hstanding'
  exact hlt

theorem filter_next (hc : ClientSide h asked delivered)
    (hchannel : h.session.channel? number = some c) (r : Request) :
    (delivered.filter fun m => m.isAbout (Asked.next h.session c r).key) = [] := by
  rw [List.filter_eq_nil_iff]
  intro m hm habout
  obtain ⟨a, ha, habout'⟩ := hc.about m hm
  obtain ⟨hkey, hid⟩ := Prod.mk.inj (Message.eq_of_isAbout habout' habout)
  exact Nat.ne_of_lt (hc.id_lt_nextId hchannel ha hkey) hid

/-- A request is entered under the next id of its channel. -/
theorem queued (hc : ClientSide h asked delivered) (hchannel : h.session.channel? number = some c)
    (r : Request) {session : Session}
    (hsound : History.Sound
      { h with session, sent := (Asked.next h.session c r).sent :: h.sent })
    (hopen : session.connection.closed = false)
    (hchannels : session.channels =
      (h.session.modify number fun c => { c with nextId := c.nextId + 1 }).channels)
    (hsame : KeepsChannels (h.session.modify number fun c => { c with nextId := c.nextId + 1 })
      session)
    (hcorrelator : session.correlator = (h.session.correlator.register c.id.key c.nextId).2) :
    ClientSide { h with session, sent := (Asked.next h.session c r).sent :: h.sent }
      (asked ++ [.next h.session c r]) delivered where
  sound := hsound
  connection := hopen
  isOpen := by
    intro other c' hstanding
    by_cases hother : number = other
    · subst hother
      cases (Session.standing?_takeId hchannel hsame).symm.trans hstanding
      exact hc.isOpen number c.standing (Session.standing?_of_channel? hchannel)
    · have hkept := (h.session.standing?_modify_of_ne hother _).symm.trans
        ((hsame.standing other).symm.trans hstanding)
      exact hc.isOpen other c' hkept
  unsolicited := by
    intro other c' hchannel'
    refine hc.unsolicited_modify number (f := fun c => { c with nextId := c.nextId + 1 })
      (fun _ hnone => hnone) other c' ?_
    rw [Session.channel?, ← hchannels]
    exact hchannel'
  nextSlot := by
    rw [hcorrelator, List.length_append, ← hc.nextSlot]
    rfl
  slots := by
    rw [List.map_append, hc.slots, List.length_append, List.length_singleton, List.range_succ,
      ← hc.nextSlot]
    rfl
  sent := by
    intro a ha
    rcases List.mem_append.mp ha with ha | ha
    · exact List.mem_cons_of_mem _ (hc.sent a ha)
    · rw [List.mem_singleton.mp ha]
      exact List.mem_cons_self ..
  held := by
    intro a ha
    simp only [hcorrelator, Correlator.register, Table.contains, Table.get?_insert]
    split
    · rfl
    · rename_i hslot
      rcases List.mem_append.mp ha with ha | ha
      · exact hc.held a ha
      · rw [List.mem_singleton.mp ha] at hslot
        exact absurd rfl hslot
  given := by
    intro a ha
    rcases List.mem_append.mp ha with ha | ha
    · obtain ⟨other, c', hstanding', hid, hlt⟩ := hc.given a ha
      obtain ⟨d, hd, hid', hle⟩ := Session.outlasts_takeId hchannel hsame other c' hstanding'
      exact ⟨other, d, hd, hid'.trans hid, Nat.lt_of_lt_of_le hlt hle⟩
    · rw [List.mem_singleton.mp ha]
      exact ⟨number, _, Session.standing?_takeId hchannel hsame, rfl, Nat.lt_succ_self _⟩
  increasing := by
    rw [List.pairwise_append]
    refine ⟨hc.increasing, List.pairwise_singleton .., ?_⟩
    intro a ha b hb hkey
    rw [List.mem_singleton.mp hb] at hkey ⊢
    exact hc.id_lt_nextId hchannel ha hkey
  about := by
    intro m hm
    obtain ⟨a, ha, habout⟩ := hc.about m hm
    exact ⟨a, List.mem_append_left _ ha, habout⟩
  received := by
    intro a ha
    obtain ⟨issued, hledger⟩ := hc.sound.ledger
    have hregistered := hledger.received_register c.id.key c.nextId a.pending.slot
    rw [History.received, History.ledger, hcorrelator]
    refine Eq.trans hregistered ?_
    rcases List.mem_append.mp ha with ha | ha
    · exact hc.received a ha
    · rw [List.mem_singleton.mp ha, hc.filter_next hchannel]
      exact hledger.received_untouched (Nat.le_refl _)
  entry := by
    intro key o ho
    simp only [hcorrelator, Correlator.register, ChannelId.trim_key, Table.get?_insert] at ho
    split at ho
    · rename_i hnew
      cases ho
      exact ⟨_, List.mem_append_right _ (List.mem_singleton.mpr rfl), hnew.symm, rfl⟩
    · obtain ⟨a, ha, hkey, hslot⟩ := hc.entry key o ho
      exact ⟨a, List.mem_append_left _ ha, hkey, hslot⟩

/-- A request that is sent is queued behind all others. -/
theorem invoke (hc : ClientSide h asked delivered) (hchannel : h.session.channel? number = some c)
    (r : Request) :
    (h.session.sendOn number c.id r).1 = .ok (Asked.next h.session c r).pending ∧
    (h.step (.invoke number r)).session.connection =
      { h.session.connection with
        outbound := h.session.connection.outbound ++ [(Asked.next h.session c r).message] } ∧
    ClientSide (h.step (.invoke number r)) (asked ++ [.next h.session c r]) delivered := by
  have hopen : c.isClosed = false := hc.isOpen number _ (Session.standing?_of_channel? hchannel)
  have hkey : h.session.keyOf number = c.id.key := by
    rw [Session.keyOf, hchannel]
    rfl
  have hsound := hc.sound.step (.invoke number r)
  rw [History.step, Session.invoke?, hchannel, Option.map_some,
    Session.sendOn_eq hchannel hopen hc.connection r] at hsound ⊢
  simp only [hkey] at hsound ⊢
  exact ⟨rfl, rfl,
    hc.queued hchannel r hsound hc.connection rfl ⟨rfl, fun _ => rfl, id⟩ rfl⟩

/-- Sending a request opens no channel. -/
theorem standing?_invoke (hc : ClientSide h asked delivered)
    (hchannel : h.session.channel? number = some c) (r : Request) {other : Nat} {c' : Standing}
    (hstanding : (h.step (.invoke number r)).session.standing? other = some c') :
    ∃ c₀, h.session.standing? other = some c₀ ∧ c₀.id = c'.id := by
  have hopen : c.isClosed = false := hc.isOpen number _ (Session.standing?_of_channel? hchannel)
  rw [History.step, Session.invoke?, hchannel, Option.map_some,
    Session.sendOn_eq hchannel hopen hc.connection r] at hstanding
  have hmodify : (h.session.modify number fun c =>
      { c with nextId := c.nextId + 1 }).standing? other = some c' := hstanding
  by_cases hother : number = other
  · subst hother
    rw [Session.standing?_modify_self hchannel] at hmodify
    cases hmodify
    exact ⟨_, Session.standing?_of_channel? hchannel, rfl⟩
  · rw [Session.standing?_modify_of_ne _ hother] at hmodify
    exact ⟨c', hmodify, rfl⟩

end invoke

/-! ## Receiving -/

section receive

variable {a : Asked} {m : Message} {whole : List (Except Error Message)}

/-- A request for which something has yet to come waits for the next of it. -/
theorem waits (hc : ClientSide h asked delivered) (ha : a ∈ asked) (hwhole : Settled whole)
    (hfront : h.received a.pending.slot ++ [.ok m.plain] <+: whole) :
    ∃ o ends, h.session.correlator.entries.get? a.key = some o ∧ o.slot = a.pending.slot ∧
      fits o.awaits m.plain = some ends := by
  have haccounted := hc.sound.sent a.sent (hc.sent a ha) (hc.held a ha)
  obtain ⟨o, ho, hslot⟩ := haccounted.resolve_right (hwhole.not_front hfront)
  obtain ⟨issued, hledger⟩ := hc.sound.ledger
  have hprogress : Progress o.awaits (h.received a.pending.slot) := by
    have hentry := (hledger.entry a.key o ho).2
    rw [hslot] at hentry
    exact hentry
  obtain ⟨ends, hfits⟩ := hwhole.fits_next hprogress hfront
  exact ⟨o, ends, ho, hslot, hfits⟩

/-- The next message of all that comes for a request is put into its slot. -/
theorem receive (hc : ClientSide h asked delivered) (ha : a ∈ asked) (hm : m.isAbout a.key = true)
    (hwhole : Settled whole)
    (hfront : ((delivered ++ [m]).filter fun m => m.isAbout a.key).map (fun m => .ok m.plain)
      <+: whole) :
    ClientSide (h.step (.receive m.plain)) asked (delivered ++ [m]) ∧
      (h.session.receive m.plain).2 = none := by
  have hmore : (((delivered ++ [m]).filter fun m => m.isAbout a.key).map fun m => .ok m.plain) =
      h.received a.pending.slot ++ [.ok m.plain] := by
    rw [hc.received a ha, List.filter_append, List.map_append, List.filter_singleton, hm]
    rfl
  obtain ⟨o, ends, ho, hslot, hfits⟩ := hc.waits ha hwhole (hmore ▸ hfront)
  have hheld : h.session.correlator.slots.contains o.slot = true := hslot ▸ hc.held a ha
  obtain ⟨channel, hchannel, hkey⟩ := Message.isAbout_iff.mp hm
  have hentry : h.session.correlator.entries.get? (channel.key, m.plain.id) = some o := by
    rw [Message.id_plain, hkey]
    exact ho
  have hhandle := Correlator.handle_eq_of_fits hchannel hentry hheld hfits
  obtain ⟨number, -, hget, -, -⟩ := hc.gaveOut ha
  have hroute : ChannelTable.route h.session.table m.plain = .ok number := by
    rw [← hkey] at hget
    simp only [ChannelTable.route, hchannel, ChannelTable.lookup, ChannelId.trim_key, hget]
  have hsound := hc.sound.step (.receive m.plain)
  have hpushed := (h.ledger []).received_push (.ok m.plain) hheld
    (advance h.session.correlator.entries (channel.key, m.plain.id) o ends)
  rw [History.step] at hsound ⊢
  simp only [Session.receive, hroute, Session.deliver, hhandle] at hsound ⊢
  refine ⟨{ hc with sound := hsound, held := ?_, about := ?_, received := ?_, entry := ?_ }, trivial⟩
  · intro b hb
    rw [Correlator.contains_pushInto]
    exact hc.held b hb
  · intro other hother
    rcases List.mem_append.mp hother with hother | hother
    · exact hc.about other hother
    · rw [List.mem_singleton.mp hother]
      exact ⟨a, ha, hm⟩
  · intro b hb
    by_cases hsame : b = a
    · rw [hsame, hmore, ← hslot]
      exact hpushed.1
    · have hother : b.pending.slot ≠ o.slot := by
        intro hequal
        exact hsame (hc.eq_of_slot hb ha (hequal.trans hslot))
      have hnot : m.isAbout b.key = false := by
        rw [← Bool.not_eq_true]
        exact fun habout => hsame
          (List.inj_on_of_nodup_map hc.nodup_keys hb ha (Message.eq_of_isAbout habout hm))
      rw [List.filter_append, List.filter_singleton, hnot, cond_false, List.append_nil]
      exact (hpushed.2 b.pending.slot hother).trans (hc.received b hb)
  · intro key o' ho'
    simp only [get?_advance] at ho'
    split at ho'
    · rename_i hnew
      split at ho'
      · cases ho'
      · cases ho'
        refine ⟨a, ha, ?_, hslot.symm⟩
        rw [hnew, Message.id_plain, hkey]
    · exact hc.entry key o' ho'

/-- When every request is over, none is outstanding. -/
theorem pending_eq_zero (hc : ClientSide h asked delivered)
    (hover : ∀ a ∈ asked, Settled (h.received a.pending.slot)) :
    h.session.correlator.pending = 0 := by
  refine Table.size_eq_zero ?_
  intro key
  cases hget : h.session.correlator.entries.get? key with
  | none => rfl
  | some o =>
      obtain ⟨a, ha, -, hslot⟩ := hc.entry key o hget
      obtain ⟨issued, hledger⟩ := hc.sound.ledger
      have hprogress := (hledger.entry key o hget).2
      rw [← hslot] at hprogress
      exact absurd (hover a ha) hprogress.not_settled

end receive

end ClientSide

end MediaControl.Dialogue
