import MediaControl.Proofs.Correlator.Handling
import MediaControl.Proofs.Server.Cases
import MediaControl.Server.Demo

/-!
# Demonstrations

The demonstration handlers answer every method that their resource knows.  What a server with these
handlers queues for a request is a front of a script of one or two messages: the response and, if the
method goes on after its response, the event that completes it.

Main statements: `get?_handlers` (which methods are answered), `messages_prefix_script`, and
`Demonstrates.settled_script` (the script is all that a client waits for).
-/

set_option autoImplicit false

namespace MediaControl

/-! ## The handlers -/

namespace Demo

/-- A handler is registered for each of the methods. -/
theorem get?_foldl_on (methods : List Method) (h : Handlers) (method : Method) :
    (methods.foldl (fun h m => h.on m (handler m)) h).table.get? method =
      if method ∈ methods then some (handler method) else h.table.get? method := by
  induction methods generalizing h with
  | nil => rfl
  | cons m methods ih =>
      rw [List.foldl_cons, ih]
      by_cases hmem : method ∈ methods
      · rw [if_pos hmem, if_pos (List.mem_cons_of_mem _ hmem)]
      · rw [if_neg hmem, Handlers.on, Table.get?_insert]
        by_cases hfirst : method = m
        · rw [if_pos hfirst, if_pos (hfirst ▸ List.mem_cons_self ..), hfirst]
        · rw [if_neg hfirst, if_neg]
          intro hmem'
          rcases List.mem_cons.mp hmem' with h' | h'
          · exact hfirst h'
          · exact hmem h'

theorem length_late_handler (method : Method) (channel : ChannelId) (r : Request) :
    (handler method channel r).late.length ≤ 1 := by
  unfold handler
  cases method.completionEvent? with
  | none => exact Nat.zero_le _
  | some name => exact Nat.le_refl _

/-- Every method that the resource knows has its handler, and no other has one. -/
theorem get?_handlers (resource : Resource) (method : Method) :
    (handlers resource).table.get? method =
      if method.isValidFor resource then some (handler method) else none := by
  have hmem : method ∈ (Vocabulary.all.filter fun m : Method => m.isValidFor resource) ↔
      method.isValidFor resource = true := by
    rw [List.mem_filter]
    exact ⟨And.right, fun h => ⟨LawfulVocabulary.mem_all method, h⟩⟩
  rw [handlers, get?_foldl_on]
  by_cases hvalid : method.isValidFor resource = true
  · rw [if_pos (hmem.mpr hvalid), if_pos hvalid]
  · rw [if_neg fun h => hvalid (hmem.mp h), if_neg hvalid]
    rfl

/-- The headers of a completion: the channel first, then the cause. -/
theorem headers_completion (name : EventName) (channel : ChannelId) (id : Nat) :
    (completion name channel id).headers =
      [channel.header, .ofValue Catalogue.completionCause (.cause normal)] := by
  have hother : channel.header.hasName Catalogue.completionCause = false :=
    show Text.sameCaseless Catalogue.channelIdentifier Catalogue.completionCause = false by decide
  have hset : (completion name channel id).headers =
      if channel.header.hasName Catalogue.completionCause then
        [(Header.ofValue Catalogue.completionCause (.cause normal)).renamed channel.header.name]
      else [channel.header, .ofValue Catalogue.completionCause (.cause normal)] := rfl
  rw [hset, hother, if_neg Bool.false_ne_true]

theorem stampMissing_completion (name : EventName) (channel : ChannelId) (id : Nat) :
    Headers.stampMissing (completion name channel id).headers channel =
      (completion name channel id).headers := by
  have hself : channel.header.hasName Catalogue.channelIdentifier = true := Text.sameCaseless_refl _
  rw [Headers.stampMissing, if_pos]
  rw [headers_completion, Headers.contains, Headers.get?_cons, if_pos hself]
  rfl

/-- A completion comes out of its bytes as it went in. -/
theorem wireSafe_completion (name : EventName) {channel : ChannelId} {id : Nat}
    (hkey : '\n' ∉ channel.key.toList) (hid : id ≤ Natural.max64) :
    (Message.event (completion name channel id)).WireSafe := by
  have hcause : (Header.ofValue Catalogue.completionCause (.cause normal)).WireSafe :=
    ⟨by decide, by decide, by decide, by decide, by decide, by decide, by decide⟩
  have htype : ∀ c, (completion name channel id).content = some c → c.type = resultType := by
    intro c hc
    simp only [completion] at hc
    split at hc
    · cases hc
      rfl
    · cases hc
  refine ⟨hid, ?_, ?_, ?_, ?_⟩
  · intro h hh
    have hmem : h ∈ (completion name channel id).headers := hh
    rw [headers_completion, List.mem_cons, List.mem_singleton] at hmem
    rcases hmem with rfl | rfl
    · exact Headers.wireSafe_header hkey
    · exact hcause
  · intro c hc
    rw [htype c hc]
    decide
  · intro c hc
    rw [htype c hc]
    decide
  · intro c _ h hh
    have hmem : h ∈ (completion name channel id).headers := hh
    rw [headers_completion, List.mem_cons, List.mem_singleton] at hmem
    rcases hmem with rfl | rfl
    · exact show Text.sameCaseless Catalogue.channelIdentifier Catalogue.contentType = false by decide
    · decide

end Demo

namespace Server

/-! ## Scripts -/

namespace Case

variable {k : Case}

/-- The events that the handler leaves to be reported. -/
def due (k : Case) : List Event :=
  match k.ruling with
  | .refused _ => []
  | .handled channel handler => (handler channel k.request).late.map Prod.snd

/-- The case when its handler has come to what it plans. -/
def planned (k : Case) : Case :=
  match k.ruling with
  | .refused _ => k
  | .handled channel handler => { k with outcome := (handler channel k.request).outcome }

/-- The plan of a case is the plan of its call. -/
theorem planned_work? {w : Work} (h : k.work? = some w) :
    k.planned.outcome = w.call.plan.outcome ∧ k.due = w.call.plan.late.map Prod.snd := by
  unfold work? at h
  unfold planned due
  cases hruling : k.ruling with
  | refused response =>
      rw [hruling] at h
      cases h
  | handled channel handler =>
      rw [hruling] at h
      cases h
      exact ⟨rfl, rfl⟩

theorem due_of_work?_eq_none (h : k.work? = none) : k.due = [] := by
  unfold work? at h
  unfold due
  cases hruling : k.ruling with
  | refused response => rfl
  | handled channel handler =>
      rw [hruling] at h
      cases h

/-- Everything that is to be queued for the request in the end, if the handler keeps to its plan. -/
def script (k : Case) : List Message :=
  .response k.planned.response :: k.due.map fun e => .event (k.addressed e)

/-- The handler has come to what it planned, once it has ended. -/
def FollowsPlan (k : Case) : Prop := k.stage ≠ .working → k.planned = k

/-- What is queued for a request is a front of its script. -/
theorem messages_prefix_script (hplan : k.FollowsPlan) {later : List Event}
    (hdue : k.events ++ later = k.due) : k.messages <+: k.script := by
  unfold messages script
  rw [← hdue]
  cases hstage : k.stage with
  | working => exact List.nil_prefix
  | ended => exact List.nil_prefix
  | answered =>
      rw [hplan (by rw [hstage]; exact Stage.noConfusion)]
      exact List.cons_prefix_cons.mpr ⟨rfl, List.nil_prefix⟩
  | released =>
      rw [hplan (by rw [hstage]; exact Stage.noConfusion), List.map_append]
      exact List.cons_prefix_cons.mpr ⟨rfl, List.prefix_append ..⟩

/-- When every event has been reported and let go, the script has been queued. -/
theorem messages_eq_script (hplan : k.FollowsPlan) (hdue : k.events = k.due)
    (hreleased : k.stage = .released) : k.messages = k.script := by
  unfold messages script
  rw [hplan (by rw [hreleased]; exact Stage.noConfusion), ← hdue, hreleased]

@[simp] theorem due_turn (k : Case) (t : Turn) : (k.turn t).due = k.due := by
  unfold due
  rw [ruling_turn, request_turn]

theorem events_report {channel : ChannelId} {handler : Handler}
    (h : k.ruling = .handled channel handler) (e : Event) :
    (k.turn (.report e)).events = k.events ++ [e] := by
  simp only [turn, h]

/-- No other turn adds an event. -/
theorem events_turn_of_ne {t : Turn} (ht : ∀ e, t ≠ .report e) : (k.turn t).events = k.events := by
  unfold turn
  split
  · rfl
  · cases t with
    | report e => exact absurd rfl (ht e)
    | finish outcome =>
        simp only
        split <;> rfl
    | answer =>
        simp only
        split <;> rfl
    | release =>
        simp only
        split <;> rfl

/-- Where one event was planned at most, the report of an event that was left is all that was planned:
none has been reported before, and none is left behind it. -/
theorem events_report_of_due {left rest before after : List Event} {e : Event}
    (hone : k.due.length ≤ 1) (hdue : k.events ++ left = k.due)
    (hleft : left = before ++ e :: after) (hrest : rest = before ++ after) :
    (k.turn (.report e)).events ++ rest = k.due := by
  rw [← hdue, hleft, List.length_append, List.length_append, List.length_cons] at hone
  have hevents : k.events = [] := List.length_eq_zero_iff.mp (by omega)
  have hbefore : before = [] := List.length_eq_zero_iff.mp (by omega)
  have hafter : after = [] := List.length_eq_zero_iff.mp (by omega)
  rw [hevents, hleft, hbefore, hafter] at hdue
  cases hruling : k.ruling with
  | refused response =>
      rw [due, hruling] at hdue
      cases hdue
  | handled channel handler =>
      rw [events_report hruling, hevents, hrest, hbefore, hafter]
      exact hdue

theorem followsPlan_start (connection : Nat) (r : Request) (ruling : Ruling) :
    (start connection r ruling).FollowsPlan := by
  intro hworking
  cases ruling with
  | refused response => rfl
  | handled channel handler => exact absurd rfl hworking

/-- A handler that keeps to its plan goes on keeping to it. -/
theorem FollowsPlan.turn (h : k.FollowsPlan) {t : Turn}
    (ht : ∀ outcome, t = .finish outcome → k.planned.outcome = outcome) :
    (k.turn t).FollowsPlan := by
  unfold FollowsPlan at h ⊢
  rcases k with ⟨connection, request, ruling, stage, given, events⟩
  cases ruling with
  | refused response => exact fun _ => rfl
  | handled channel handler =>
      intro hworking
      cases t with
      | report e =>
          have hplan := congrArg Case.outcome (h hworking)
          simp only [planned, Case.turn] at hplan ⊢
          rw [hplan]
      | finish outcome =>
          have houtcome := ht outcome rfl
          cases stage with
          | working =>
              simp only [planned] at houtcome
              simp only [planned, Case.turn, if_true, houtcome]
          | _ => exact h Stage.noConfusion
      | answer =>
          cases stage with
          | ended =>
              have hplan := congrArg Case.outcome (h Stage.noConfusion)
              simp only [planned, Case.turn, if_true] at hplan ⊢
              rw [hplan]
          | _ => exact h hworking
      | release =>
          cases stage with
          | answered =>
              have hplan := congrArg Case.outcome (h Stage.noConfusion)
              simp only [planned, Case.turn, if_true] at hplan ⊢
              rw [hplan]
          | _ => exact h hworking

/-! ## Scripts of the demonstration -/

/-- The request is ruled as a channel with demonstration handlers rules it. -/
def Demonstrates (k : Case) (channel : ChannelId) : Prop :=
  k.ruling =
    if k.request.method.isValidFor channel.resource then
      .handled channel (Demo.handler k.request.method)
    else .refuse k.request ⟨401⟩ [channel.header]

/-- A response of the demonstration. -/
def demoResponse (k : Case) (channel : ChannelId) (status : Status) (state : RequestState) :
    Message :=
  .response { id := k.request.id, status, state, headers := [channel.header] }

/-- The script of a request: a method that the resource does not know is refused, one without a
completion event is answered, and any other is begun and then completed. -/
theorem Demonstrates.script_eq {channel : ChannelId} (h : k.Demonstrates channel) :
    k.script =
      if k.request.method.isValidFor channel.resource then
        match k.request.method.completionEvent? with
        | none => [k.demoResponse channel ⟨200⟩ .complete]
        | some name =>
          [k.demoResponse channel ⟨200⟩ .inProgress,
            .event (Demo.completion name channel k.request.id)]
      else [k.demoResponse channel ⟨401⟩ .complete] := by
  unfold Demonstrates at h
  unfold script planned due addressed
  by_cases hvalid : k.request.method.isValidFor channel.resource = true
  · rw [if_pos hvalid] at h ⊢
    simp only [h, Demo.handler, response, signed]
    cases k.request.method.completionEvent? with
    | none =>
        simp only [Response.new, stamp_stamp]
        rfl
    | some name =>
        simp only [Response.new, stamp_stamp, List.map_cons, List.map_nil,
          Demo.stampMissing_completion]
        rfl
  · rw [if_neg hvalid] at h ⊢
    simp only [h, Ruling.refuse, response]
    rfl

section Demonstrates

variable {channel : ChannelId}

/-- Every message of the script is for the request, and its lines name the channel. -/
theorem Demonstrates.names_script (h : k.Demonstrates channel) (hkey : '@' ∉ channel.key.toList)
    {m : Message} (hm : m ∈ k.script) :
    m.plain.channelId = .ok channel.plain ∧ m.id = k.request.id := by
  have hresponse : ∀ status state, (k.demoResponse channel status state).plain.channelId =
      .ok channel.plain := fun status state => Headers.channelId_plain_cons hkey []
  rw [h.script_eq] at hm
  split at hm
  · split at hm
    · rw [List.mem_singleton.mp hm]
      exact ⟨hresponse .., rfl⟩
    · rename_i name _
      rcases List.mem_cons.mp hm with rfl | hm
      · exact ⟨hresponse .., rfl⟩
      · rw [List.mem_singleton.mp hm]
        refine ⟨?_, rfl⟩
        show Headers.channelId ((Demo.completion name channel k.request.id).headers.map
          Header.plain) = _
        rw [Demo.headers_completion]
        exact Headers.channelId_plain_cons hkey _
  · rw [List.mem_singleton.mp hm]
    exact ⟨hresponse .., rfl⟩

/-- The script comes out of its bytes as it went in, if the id of the request keeps to its bound and no
line ends in the key of the channel. -/
theorem Demonstrates.wireSafe_script (h : k.Demonstrates channel) (hkey : '\n' ∉ channel.key.toList)
    (hid : k.request.id ≤ Natural.max64) {m : Message} (hm : m ∈ k.script) : m.WireSafe := by
  have hheader := Headers.wireSafe_header hkey
  have hresponse : ∀ status : Status, status.code ≤ 999 → ∀ state,
      (k.demoResponse channel status state).WireSafe := by
    intro status hstatus state
    refine ⟨⟨hstatus, hid⟩, ?_, ?_, ?_, ?_⟩
    · intro other hother
      rw [List.mem_singleton.mp hother]
      exact hheader
    · intro c hc
      cases hc
    · intro c hc
      cases hc
    · intro c hc
      cases hc
  rw [h.script_eq] at hm
  split at hm
  · split at hm
    · rw [List.mem_singleton.mp hm]
      exact hresponse _ (by decide) _
    · rename_i name _
      rcases List.mem_cons.mp hm with rfl | hm
      · exact hresponse _ (by decide) _
      · rw [List.mem_singleton.mp hm]
        exact Demo.wireSafe_completion name hkey hid
  · rw [List.mem_singleton.mp hm]
    exact hresponse _ (by decide) _

/-- The script, as its lines say it, is all that comes in for a request. -/
theorem Demonstrates.settled_script (h : k.Demonstrates channel) :
    Correlator.Settled (k.script.map fun m => .ok m.plain) := by
  rw [h.script_eq]
  split
  · split
    · exact .answered _ rfl
    · exact .completed _ _ RequestState.noConfusion rfl
  · exact .answered _ rfl

end Demonstrates

end Case

end Server

end MediaControl
