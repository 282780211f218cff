import MediaControl.Proofs.Server.Refusals
import MediaControl.Proofs.Service.Alone

/-!
# Connections do not come into each other (SPEC_FULL §4.6)

Two runs of a service in which the same bytes are sent on a connection, whatever is sent on the others
and in whatever order things happen: when no step is left, every request on the connection has been
given the same response and the same events in both, and at any two moments at which equally many of
its requests have come in, the same ids would be accepted on it next.

Main statement: `isolated`.
-/

set_option autoImplicit false

namespace MediaControl.Service

open MediaControl.Wire

section

variable (channels : List ChannelId) {connections : List (String × Nat)} {a : Nat} {peer : String}
  {limit : Nat} (ha : connections[a]? = some (peer, limit)) {ops : List Op}
  (hspared : ∀ op ∈ ops, op.spares a = true)

include ha hspared

/-- A connection that is open in the end was so before, and the requests that had come in on it by then
are the first of those that were sent. -/
theorem apart_of_isOpen (hopen : ((start channels connections).run ops).isOpen a = true)
    {before : List Op} (hbefore : before <+: ops) :
    ∃ d l, Apart (ground channels connections) a limit (bytesOn a before)
        ((start channels connections).run before) d l ∧ l.connection.closed = false ∧
      ((start channels connections).run before).requestsOn a <+:
        (drain limit false (bytesOn a ops)).messages.filterMap Message.request? := by
  obtain ⟨rest, rfl⟩ := hbefore
  obtain ⟨l₀, hstart, -⟩ := apart_start channels ha
  obtain ⟨d, l, h, -⟩ := hstart.run fun op hop => hspared op (List.mem_append_left rest hop)
  obtain ⟨d', l', h', hlasts⟩ := h.run fun op hop => hspared op (List.mem_append_right before hop)
  have hrun : (start channels connections).run (before ++ rest) =
      ((start channels connections).run before).run rest := List.foldl_append
  rw [hrun, h'.streams.isOpen_eq, Bool.not_eq_true'] at hopen
  have hbefore : l.connection.closed = false := by
    by_contra hclosed
    cases hopen.symm.trans (hlasts (Bool.not_eq_false _ ▸ hclosed))
  refine ⟨d, l, h, hbefore, ?_⟩
  rw [bytesOn_append]
  exact (h.streams.flowing hbefore).requests_front _

end

/-- **Connections are isolated.**  Two runs in which the same bytes are sent on a connection that nobody
ends, and until no step is left.  When it is open in the end of one it is so in the end of the other, and
what was queued on it has been written.  Every request that was sent on it has a response under its id,
and events behind it, which are the same in both.  At moments of the two at which as many of its requests
have come in, every channel would accept the same ids on it. -/
theorem isolated (channels : List ChannelId) {connections : List (String × Nat)} {a : Nat}
    (ha : a < connections.length) {ops₁ ops₂ : List Op} (hbytes : bytesOn a ops₁ = bytesOn a ops₂)
    (hspared₁ : ∀ op ∈ ops₁, op.spares a = true) (hspared₂ : ∀ op ∈ ops₂, op.spares a = true)
    (hquiet₁ : ((start channels connections).run ops₁).IsQuiet)
    (hquiet₂ : ((start channels connections).run ops₂).IsQuiet)
    (hopen : ((start channels connections).run ops₁).isOpen a = true) :
    ((start channels connections).run ops₂).isOpen a = true ∧
      ((start channels connections).run ops₁).unwritten a = [] ∧
      ((start channels connections).run ops₂).unwritten a = [] ∧
      (((start channels connections).run ops₁).answersOn a).map Prod.fst =
        (drain connections[a].2 false (bytesOn a ops₁)).messages.filterMap Message.request? ∧
      (∀ answer ∈ ((start channels connections).run ops₁).answersOn a,
        ∃ (response : Response) (events : List Event),
          answer.2 = .response response :: events.map Message.event ∧
            response.id = answer.1.id) ∧
      ((start channels connections).run ops₁).answersOn a =
        ((start channels connections).run ops₂).answersOn a ∧
      ∀ before₁ before₂, before₁ <+: ops₁ → before₂ <+: ops₂ →
        (((start channels connections).run before₁).requestsOn a).length =
          (((start channels connections).run before₂).requestsOn a).length →
        ∀ key id, ((start channels connections).run before₁).accepts? a key id =
          ((start channels connections).run before₂).accepts? a key id := by
  have hconnection : connections[a]? = some (connections[a].1, connections[a].2) :=
    List.getElem?_eq_getElem ha
  obtain ⟨d₁, l₁, h₁, hopen₁, -⟩ :=
    apart_of_isOpen channels hconnection hspared₁ hopen List.prefix_rfl
  obtain ⟨hrequests₁, hunwritten₁, hanswers₁⟩ := h₁.at_rest hopen₁ hquiet₁
  have hfits := h₁.length_script_le hopen₁ hquiet₁
  have hhalt := (h₁.streams.at_rest hquiet₁ hopen₁).1
  have hserved := (map_fst_answersOn _ a).trans hrequests₁
  rw [hrequests₁] at hanswers₁ hfits
  -- what the first run shows of the bytes and of what they call for keeps the second open
  obtain ⟨l₀, hstart, hopen₀⟩ := apart_start channels hconnection
  obtain ⟨d₂, l₂, h₂, hopen₂⟩ := hstart.run_of_fits hhalt hfits hopen₀ hspared₂ hbytes.symm
  obtain ⟨hrequests₂, hunwritten₂, hanswers₂⟩ := h₂.at_rest hopen₂ hquiet₂
  rw [hrequests₂] at hanswers₂
  have hlater : ((start channels connections).run ops₂).isOpen a = true := by
    rw [h₂.streams.isOpen_eq, hopen₂]
    rfl
  refine ⟨hlater, hunwritten₁, hunwritten₂, hserved, h₁.mem_answersOn hopen₁ hquiet₁,
    hanswers₁.trans hanswers₂.symm, ?_⟩
  intro before₁ before₂ hbefore₁ hbefore₂ hlength key id
  obtain ⟨d₁', l₁', h₁', hopen₁', hfront₁⟩ :=
    apart_of_isOpen channels hconnection hspared₁ hopen hbefore₁
  obtain ⟨d₂', l₂', h₂', hopen₂', hfront₂⟩ :=
    apart_of_isOpen channels hconnection hspared₂ hlater hbefore₂
  rw [← hbytes] at hfront₂
  -- both have come to the same point of one list of requests
  have hsame : ((start channels connections).run before₁).requestsOn a =
      ((start channels connections).run before₂).requestsOn a :=
    (List.prefix_of_prefix_length_le hfront₁ hfront₂ hlength.le).eq_of_length hlength
  rw [h₁'.accepts?_eq hopen₁', h₂'.accepts?_eq hopen₂', hsame]

/-- A service with one channel and two connections. -/
def shared : Service := start [Server.synthesizer] [("first", 1000), ("second", 1000)]

/-- A request to speak. -/
def speaking (id : Nat) : Bytes :=
  (Message.request { Request.new .speak Server.synthesizer with id }).encode

/-- A request on the first connection, and nothing else. -/
def undisturbed : List Op :=
  [.deed (.send 0 (speaking 1)), .move (.read 0 500), .move (.take 0), .move (.finish 0),
    .move (.answer 0), .move (.release 0), .move (.complete 0), .move (.write 0), .move (.write 0)]

/-- The request comes in behind a later id on the second connection, which then sends what is no
message, and whose reader and writer stop; the event is reported before the response is queued. -/
def disturbed : List Op :=
  [.deed (.send 1 (speaking 7 ++ Utf8.encode "no\n\n")), .move (.read 1 500), .move (.take 1),
    .deed (.send 0 (speaking 1)), .move (.read 0 10), .move (.take 0), .move (.finish 0),
    .move (.take 1), .move (.read 0 500), .move (.take 0), .move (.quit 1), .move (.finish 1),
    .move (.complete 1), .move (.complete 0), .move (.answer 1), .move (.answer 0),
    .move (.release 1), .move (.release 0), .move (.write 0), .move (.write 0)]

/-- The first connection is not disturbed. -/
theorem isolated_disturbed :
    (bytesOn 0 undisturbed = bytesOn 0 disturbed ∧
      (∀ op ∈ undisturbed, op.spares 0 = true) ∧ (∀ op ∈ disturbed, op.spares 0 = true) ∧
      (shared.run undisturbed).IsQuiet ∧ (shared.run disturbed).IsQuiet ∧
      (shared.run undisturbed).isOpen 0 = true) ∧
    (shared.run disturbed).isOpen 0 = true ∧
      (shared.run undisturbed).unwritten 0 = [] ∧ (shared.run disturbed).unwritten 0 = [] ∧
      ((shared.run undisturbed).answersOn 0).map Prod.fst =
        (drain 1000 false (bytesOn 0 undisturbed)).messages.filterMap Message.request? ∧
      (∀ answer ∈ (shared.run undisturbed).answersOn 0,
        ∃ (response : Response) (events : List Event),
          answer.2 = .response response :: events.map Message.event ∧
            response.id = answer.1.id) ∧
      (shared.run undisturbed).answersOn 0 = (shared.run disturbed).answersOn 0 ∧
      ∀ before₁ before₂, before₁ <+: undisturbed → before₂ <+: disturbed →
        ((shared.run before₁).requestsOn 0).length = ((shared.run before₂).requestsOn 0).length →
        ∀ key id, (shared.run before₁).accepts? 0 key id = (shared.run before₂).accepts? 0 key id := by
  have hspared₁ : ∀ op ∈ undisturbed, op.spares 0 = true :=
    List.all_eq_true.mp (by decide +kernel)
  have hspared₂ : ∀ op ∈ disturbed, op.spares 0 = true :=
    List.all_eq_true.mp (by decide +kernel)
  have hfirst : ((shared.run undisturbed).isIdle && (shared.run undisturbed).isOpen 0) = true := by
    decide +kernel
  obtain ⟨hidle, hopen⟩ := Bool.and_eq_true_iff.mp hfirst
  have hquiet₁ : (shared.run undisturbed).IsQuiet := isQuiet_of_isIdle hidle
  have hquiet₂ : (shared.run disturbed).IsQuiet := isQuiet_of_isIdle (by decide +kernel)
  have hbytes : bytesOn 0 undisturbed = bytesOn 0 disturbed := rfl
  exact ⟨⟨hbytes, hspared₁, hspared₂, hquiet₁, hquiet₂, hopen⟩,
    isolated [Server.synthesizer] (a := 0) (by decide) hbytes hspared₁ hspared₂ hquiet₁ hquiet₂ hopen⟩

end MediaControl.Service
