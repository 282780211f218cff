import MediaControl.Proofs.Dialogue.Rest

/-!
# The sides of a dialogue agree (SPEC_FULL §4.6, §4.7)

Whatever the order in which things happen, every request is told what its method calls for, in order,
and nobody else is told anything.  When nothing is left to happen, which can be brought about at any
time, it has been told all of it.

This holds where each request comes out of its bytes as one request of its method, id and channel, as every
request does that can go into lines.  A request whose headers overrule the length of its body does not: the
server takes what follows it for its body, and the stream ends for all.

Main statements: `Asked.travels_of_wireSafe`, `sides_agree`, and `sides_disagree`.
-/

set_option autoImplicit false

namespace MediaControl.Dialogue

open MediaControl.Wire

open Server (Docket)

/-! ## Requests that can go into lines -/

/-- A request that can go into lines, and is for its channel, travels if it and all that is sent for it keep
to the limits. -/
theorem Asked.travels_of_wireSafe {clientLimit serverLimit : Nat} (hserver : serverLimit ≤ Natural.max64)
    {s : Session} {c : ClientChannel} {r : Request} (hclear : c.id.isClear = true)
    (hfor : r.isFor c.id = true) (safe : (Asked.next s c r).message.WireSafe)
    (hclient : (Asked.next s c r).message.encode.length ≤ clientLimit)
    (hlength : (Asked.next s c r).message.encode.length ≤ serverLimit)
    (hanswers : ∀ m ∈ (Asked.next s c r).answers,
      m.encode.length ≤ clientLimit ∧ m.encode.length ≤ serverLimit) :
    (Asked.next s c r).Travels clientLimit serverLimit := by
  have hdrain := drain_flatMap_encode hserver (List.forall_mem_singleton.mpr ⟨safe, hlength⟩)
  rw [List.flatMap_singleton] at hdrain
  refine ⟨hclient, ⟨_, hdrain, rfl, rfl, ?_⟩, hanswers⟩
  show ∃ named, Headers.channelId ((Headers.stampMissing r.headers c.id).map Header.plain) = .ok named ∧ _
  unfold Request.isFor at hfor
  cases hget : Headers.get? r.headers Catalogue.channelIdentifier with
  | none =>
      have hnone : Headers.contains r.headers Catalogue.channelIdentifier = false := by
        rw [Headers.contains, hget]
        rfl
      rw [Headers.stampMissing_of_not_contains hnone]
      refine ⟨c.id.plain, Headers.channelId_plain_stamp _ (notMem_of_isClear hclear).1, ?_⟩
      show (c.id.plain.key == c.id.key && c.id.plain.resource == c.id.resource) = true
      rw [c.id.key_plain, c.id.resource_plain, beq_self_eq_true, beq_self_eq_true]
      rfl
  | some line =>
      have hsome : Headers.contains r.headers Catalogue.channelIdentifier = true := by
        rw [Headers.contains, hget]
        rfl
      rw [Headers.stampMissing_of_contains hsome]
      rw [hget] at hfor
      simp only at hfor
      split at hfor
      · rename_i named hvalue
        refine ⟨named, ?_, hfor⟩
        simp only [Headers.channelId, Headers.get?_map_plain, hget, Option.map_some, hvalue]
      · cases hfor

/-- A request that was given nothing but its method and its channel can go into lines. -/
theorem wireSafe_next_new {s : Session} {c : ClientChannel} (hclear : c.id.isClear = true)
    (hid : c.nextId ≤ Natural.max64) (method : Method) :
    (Asked.next s c (.new method c.id)).message.WireSafe where
  isBounded := hid
  headers := by
    have hself : c.id.header.hasName Catalogue.channelIdentifier = true := Text.sameCaseless_refl _
    have hget : Headers.get? [c.id.header] Catalogue.channelIdentifier = some c.id.header := by
      rw [Headers.get?_cons, if_pos hself]
    have hnames : Headers.contains (Request.new method c.id).headers Catalogue.channelIdentifier = true := by
      rw [Headers.contains, show (Request.new method c.id).headers = [c.id.header] from rfl, hget]
      rfl
    intro h hh
    have hmem : h ∈ (Headers.stampMissing (Request.new method c.id).headers c.id) := hh
    rw [Headers.stampMissing_of_contains hnames] at hmem
    rw [List.mem_singleton.mp hmem]
    exact Headers.wireSafe_header (notMem_of_isClear hclear).2
  trim_type := by
    intro content hcontent
    cases hcontent
  lineFeed_notMem_type := by
    intro content hcontent
    cases hcontent
  not_contentType := by
    intro content hcontent
    cases hcontent

/-! ## What requests are told -/

section

variable {g : Docket} {clientLimit serverLimit : Nat} {d : Dialogue}

/-- Messages of the script of a request tell it what they report. -/
theorem isTold_of_front {a : Asked} {c : Server.Case} (hmatches : Matches c a)
    (hclear : a.channel.isClear = true) {ms : List Message}
    (hreceived : d.client.received a.pending.slot = ms.map fun m => .ok m.plain)
    (hfront : ms <+: c.script) :
    ∃ reports, d.IsTold a reports ∧ reports <+: a.request.method.reports a.channel.resource ∧
      (ms = c.script → reports = a.request.method.reports a.channel.resource) := by
  have hscript := hmatches.map_report?_script
  -- the reports of a front of the script are a front of those of the method
  have hreports : (ms.map fun m => m.plain.report?) <+:
      (a.request.method.reports a.channel.resource).map some := hscript ▸ hfront.map _
  have htake := List.prefix_iff_eq_take.mp hreports
  rw [← List.map_take] at htake
  refine ⟨_, ⟨ms.map Message.plain, ?_, ?_, ?_⟩, List.take_prefix (ms.map fun m => m.plain.report?).length
    _, ?_⟩
  · rw [hreceived, List.map_map]
    rfl
  · rw [List.map_map]
    exact htake
  · intro m hm
    obtain ⟨queued, hqueued, rfl⟩ := List.mem_map.mp hm
    exact hmatches.names_script hclear (hfront.subset hqueued)
  · rintro rfl
    refine List.take_of_length_le ?_
    have hlength := congrArg List.length hscript
    rw [List.length_map (f := some)] at hlength
    exact Nat.le_of_eq hlength.symm

namespace Sound

variable (hg : g.IsFresh) (hd : Sound g clientLimit serverLimit d)

include hd

theorem asked_invoke {number : Nat} {c : ClientChannel}
    (hchannel : d.client.session.channel? number = some c) (r : Request) :
    (d.invoke number r).asked = d.asked ++ [.next d.client.session c r] := by
  obtain ⟨k, l, sent, come, hd, -⟩ := hd
  obtain ⟨hsent, -, -⟩ := hd.client.invoke hchannel r
  simp only [Dialogue.invoke, hchannel, hsent]
  rfl

theorem unheard : d.heard = [] ∧
    ∀ number c, d.client.session.channel? number = some c → c.unsolicited.items = [] := by
  obtain ⟨k, l, sent, come, hd, -⟩ := hd
  exact ⟨hd.heard, hd.client.unsolicited⟩

section

variable (htravels : ∀ a ∈ d.asked, a.Travels clientLimit serverLimit)

include hg htravels

/-- A request has been told a front of what its method calls for. -/
theorem told {a : Asked} (ha : a ∈ d.asked) :
    ∃ reports, d.IsTold a reports ∧ reports <+: a.request.method.reports a.channel.resource := by
  obtain ⟨k, l, sent, come, hd, -⟩ := hd
  obtain ⟨ms, hreceived, rfl | ⟨c, hmatches, hfront⟩⟩ := hd.received hg htravels ha
  · exact ⟨[], ⟨[], hreceived, rfl, fun m hm => (by cases hm)⟩, List.nil_prefix⟩
  · obtain ⟨reports, htold, hfirst, -⟩ := isTold_of_front hmatches (hd.clear a ha).1 hreceived hfront
    exact ⟨reports, htold, hfirst⟩

variable (hclient : clientLimit ≤ Natural.max64) (hquiet : d.IsQuiet)

include hclient hquiet

/-- When nothing is left to happen, it has been told all of it. -/
theorem told_of_isQuiet {a : Asked} (ha : a ∈ d.asked) :
    d.IsTold a (a.request.method.reports a.channel.resource) := by
  obtain ⟨k, l, sent, come, hd, hup⟩ := hd
  obtain ⟨c, hmatches, hreceived⟩ := hd.received_of_isQuiet hg hclient htravels hup hquiet ha
  obtain ⟨reports, htold, -, hall⟩ :=
    isTold_of_front hmatches (hd.clear a ha).1 hreceived List.prefix_rfl
  rw [← hall rfl]
  exact htold

/-- Then no request is outstanding. -/
theorem pending_of_isQuiet : d.client.session.correlator.pending = 0 := by
  obtain ⟨k, l, sent, come, hd, hup⟩ := hd
  refine hd.client.pending_eq_zero ?_
  intro a ha
  obtain ⟨c, hmatches, hreceived⟩ := hd.received_of_isQuiet hg hclient htravels hup hquiet ha
  rw [hreceived]
  exact hmatches.settled_script

end

end Sound

end

/-! ## Agreement -/

/-- Over every run of a dialogue, if the requests that were sent and all that is sent for them keep to the
limits, and each comes out of its bytes as one request of its method, id and channel: a request has been
told a front of what its method calls for, namely that it is not allowed; that it succeeded; or that it goes
on, and then that it is complete.  All of that comes under its id and on its channel, and nothing is told to
listeners or waits for them.  On an open channel every request is sent, and the dialogue can come to rest
without another.  When it rests, every request has been told all, and none is outstanding. -/
theorem sides_agree (channels : List ChannelId) {clientLimit serverLimit : Nat}
    (hclient : clientLimit ≤ Natural.max64) (ops : List Op)
    (htravels : ∀ a ∈ ((start channels clientLimit serverLimit).run ops).asked,
      a.Travels clientLimit serverLimit) :
    let d := (start channels clientLimit serverLimit).run ops
    (∀ a ∈ d.asked,
      (∃ reports, d.IsTold a reports ∧
        reports <+: a.request.method.reports a.channel.resource) ∧
      (d.IsQuiet → d.IsTold a (a.request.method.reports a.channel.resource))) ∧
    (d.IsQuiet → d.client.session.correlator.pending = 0) ∧
    (d.heard = [] ∧
      ∀ number c, d.client.session.channel? number = some c → c.unsolicited.items = []) ∧
    (∀ number c r, d.client.session.channel? number = some c →
      (d.invoke number r).asked = d.asked ++ [.next d.client.session c r]) ∧
    ∃ moves : List Move, (d.run (moves.map .move)).IsQuiet ∧
      (d.run (moves.map .move)).asked = d.asked := by
  intro d
  have hg := Service.fresh_ground channels [("client", serverLimit)]
  have hd := (sound_start channels clientLimit serverLimit).run hg hclient ops htravels
  refine ⟨?_, ?_, hd.unheard, ?_, hd.comes_to_rest hg hclient htravels⟩
  · intro a ha
    exact ⟨hd.told hg htravels ha, fun hquiet => hd.told_of_isQuiet hg htravels hclient hquiet ha⟩
  · exact hd.pending_of_isQuiet hg htravels hclient
  · intro number c r hchannel
    exact hd.asked_invoke hchannel r

/-- The channel `s` of a speech synthesizer. -/
def speech : ChannelId := ⟨"s", .speechSynth, by decide⟩

/-- A request to speak is on its way. -/
def speaking : List Op := [.deed (.openChannel speech), .deed (.invoke 0 (.new .speak speech)), .move .write]

theorem travels_speaking : ∀ a ∈ ((start [speech] 1000 1000).run speaking).asked, a.Travels 1000 1000 := by
  have hasked : ((start [speech] 1000 1000).run speaking).asked =
    [.next (start [speech] 1000 1000).client.session { id := speech } (.new .speak speech)] := rfl
  rw [hasked, List.forall_mem_singleton]
  have safe := wireSafe_next_new (s := (start [speech] 1000 1000).client.session) (c := { id := speech })
    (by decide) (by decide) .speak
  exact Asked.travels_of_wireSafe (by decide) (by decide) (by decide) safe (by decide +kernel)
    (by decide +kernel) (by decide +kernel)

/-- The dialogue comes to rest, and the request has been told that it goes on and that it is complete. -/
theorem sides_agree_speaking :
    ∃ moves : List Move,
      let d := (start [speech] 1000 1000).run (speaking ++ moves.map .move)
      (∀ a ∈ d.asked, a.Travels 1000 1000) ∧ d.IsQuiet ∧ d.client.session.correlator.pending = 0 ∧
        ∀ a ∈ d.asked, d.IsTold a [.response ⟨200⟩ .inProgress, .event .speakComplete .complete] := by
  have hclient : 1000 ≤ Natural.max64 := by decide
  obtain ⟨-, -, -, -, moves, hquiet, hasked⟩ := sides_agree [speech] hclient speaking travels_speaking
  have hrun : ((start [speech] 1000 1000).run speaking).run (moves.map .move) =
      (start [speech] 1000 1000).run (speaking ++ moves.map .move) := List.foldl_append.symm
  rw [hrun] at hquiet hasked
  have htravels := travels_speaking
  rw [← hasked] at htravels
  obtain ⟨htold, hpending, -⟩ := sides_agree [speech] hclient (speaking ++ moves.map .move) htravels
  refine ⟨moves, htravels, hquiet, hpending hquiet, ?_⟩
  intro a ha
  have hreports : a.request.method.reports a.channel.resource =
      [.response ⟨200⟩ .inProgress, .event .speakComplete .complete] := by
    rw [hasked] at ha
    rw [List.mem_singleton.mp ha]
    rfl
  rw [← hreports]
  exact (htold a ha).2 hquiet

/-- A request without a body whose headers announce one of four bytes. -/
def overruled : Request :=
  { Request.new .setParams speech with
    headers := [speech.header, .ofText "Content-Type" "text/plain", .ofText "Content-Length" "4"] }

/-- It is sent, and another request behind it; the server reads and takes what it can, and the session sees
the end of the stream. -/
def overruling : List Op :=
  [.deed (.openChannel speech), .deed (.invoke 0 overruled),
    .deed (.invoke 0 (.new .setParams speech)), .move .write, .move .write,
    .move (.serve (.read 0 1000)), .move (.serve (.take 0)), .move (.serve (.take 0)),
    .move (.serve (.quit 0)), .move .look]

set_option maxRecDepth 4000 in
/-- Both requests are for their channel, and keep to the limits with all that is sent for them. -/
theorem sides_disagree :
    let d := (start [speech] 1000 1000).run overruling
    (∀ a ∈ d.asked, a.channel.isClear = true ∧ a.request.isFor a.channel = true ∧
      ∀ m ∈ a.message :: a.answers, m.encode.length ≤ 1000) ∧
    ∃ a ∈ d.asked, ¬ ∃ reports, d.IsTold a reports ∧
      reports <+: a.request.method.reports a.channel.resource := by
  intro d
  obtain ⟨hkept, hsecond, hfailed⟩ : (∀ a ∈ d.asked, a.channel.isClear = true ∧
      a.request.isFor a.channel = true ∧ ∀ m ∈ a.message :: a.answers, m.encode.length ≤ 1000) ∧
      (d.asked[1]?).map (fun a => a.pending.slot) = some 1 ∧
      ((d.client.received 1).map fun item => item.toOption.isSome) = [false] := by
    decide +kernel
  obtain ⟨a, ha, hslot⟩ := Option.map_eq_some_iff.mp hsecond
  refine ⟨hkept, a, List.mem_of_getElem? ha, ?_⟩
  rintro ⟨reports, ⟨ms, hreceived, -, -⟩, -⟩
  rw [hslot] at hreceived
  rw [hreceived, List.map_map] at hfailed
  cases ms with
  | nil => cases hfailed
  | cons m ms => cases (List.cons.inj hfailed).1

end MediaControl.Dialogue
