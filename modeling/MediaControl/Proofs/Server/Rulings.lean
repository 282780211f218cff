import MediaControl.Proofs.Header.Naming
import MediaControl.Proofs.Server.Docket
import MediaControl.Proofs.Table

/-!
# The verdicts of a server

A channel of a server knows no more than the last id on each connection, and a docket every id that
passed there; they agree on what passes next.  A server whose channels agree with a docket gives every
request the verdict that the docket rules.

Main statements: `Agrees.receive` (one channel) and `ChannelsAgree.receive` (the server).
-/

set_option autoImplicit false

namespace MediaControl.Server

/-- The verdict that a ruling amounts to. -/
def Ruling.verdict (connection : Nat) (r : Request) : Ruling → Verdict
  | .refused response => .rejected response
  | .handled channel handler => .accepted { connection, channel, request := r, handler }

/-! ## One channel -/

/-- A channel is open as the docket says, under its key and with handlers for its type of resource; the
two let the same ids pass on every connection that is not gone. -/
structure Agrees (isGone : Nat → Bool) (key : String) (c : ServerChannel) (o : Opening) : Prop where
  id : c.id = o.id
  handlers : c.handlers = o.handlers
  key : c.id.key = key
  resource : c.handlers.resource = c.id.resource
  admits : ∀ connection, isGone connection = false → ∀ id,
    c.isAdvance connection id = o.admits connection id

theorem isAdvance_advance (c : ServerChannel) (connection id other later : Nat) :
    (c.advance connection id).isAdvance other later =
      if other = connection then decide (id < later) else c.isAdvance other later := by
  unfold ServerChannel.isAdvance ServerChannel.advance
  rw [Table.get?_insert]
  by_cases hother : other = connection
  · simp only [if_pos hother]
  · simp only [if_neg hother]

namespace Opening

/-- The ids that passed before an id do not matter behind it. -/
theorem admits_pass {o : Opening} {connection id : Nat} (h : o.admits connection id = true)
    (other later : Nat) :
    (o.pass connection id).admits other later =
      if other = connection then decide (id < later) else o.admits other later := by
  rw [pass, if_pos h]
  unfold admits at h ⊢
  by_cases hother : other = connection
  · simp only [if_pos hother, List.all_append, List.all_cons, List.all_nil, Bool.and_true]
    by_cases hlater : id < later
    · have hearlier : (o.passed connection).all (fun earlier => earlier < later) = true := by
        rw [List.all_eq_true] at h ⊢
        intro earlier hmem
        have hlt := of_decide_eq_true (h earlier hmem)
        exact decide_eq_true (Nat.lt_trans hlt hlater)
      rw [hearlier, Bool.true_and]
    · simp [hlater]
  · simp only [if_neg hother]

@[simp] theorem id_pass (o : Opening) (connection id : Nat) : (o.pass connection id).id = o.id := by
  unfold pass
  split <;> rfl

@[simp] theorem handlers_pass (o : Opening) (connection id : Nat) :
    (o.pass connection id).handlers = o.handlers := by
  unfold pass
  split <;> rfl

end Opening

namespace Agrees

variable {isGone : Nat → Bool} {key : String} {c : ServerChannel} {o : Opening} {connection : Nat}

/-- An id that passes on the one passes on the other. -/
theorem advance (ha : Agrees isGone key c o) {id : Nat} (hid : o.admits connection id = true) :
    Agrees isGone key (c.advance connection id) (o.pass connection id) where
  id := ha.id.trans (o.id_pass connection id).symm
  handlers := ha.handlers.trans (o.handlers_pass connection id).symm
  key := ha.key
  resource := ha.resource
  admits := by
    intro other hother later
    rw [isAdvance_advance, o.admits_pass hid, ha.admits other hother]

/-- When a connection is gone its ids do not matter any more. -/
theorem disconnect (ha : Agrees isGone key c o) (connection : Nat) :
    Agrees (fun other => other = connection || isGone other) key (c.disconnect connection) o where
  id := ha.id
  handlers := ha.handlers
  key := ha.key
  resource := ha.resource
  admits := by
    intro other hother id
    simp only [Bool.or_eq_false_iff, decide_eq_false_iff_not] at hother
    have hsame : (c.disconnect connection).isAdvance other id = c.isAdvance other id := by
      unfold ServerChannel.isAdvance ServerChannel.disconnect
      rw [Table.get?_erase, if_neg hother.1]
    rw [hsame, ha.admits other hother.2]

/-- A channel judges a request whose id is in order as the docket does. -/
theorem judge (ha : Agrees isGone key c o) {r : Request} {named : ChannelId}
    (hnamed : Headers.channelId r.headers = .ok named) (hid : o.admits connection r.id = true) :
    c.judge connection r = (o.rule connection named r).verdict connection r := by
  have hadmits : (!o.admits connection r.id) = false := by rw [hid, Bool.not_true]
  simp only [ServerChannel.judge, ServerChannel.isAddressedBy, hnamed, Opening.rule, hadmits,
    Handlers.get?, ha.resource, ← ha.handlers, ← ha.id]
  by_cases htype : named.resource = c.id.resource
  · simp only [htype, decide_true, if_true, ne_eq, not_true_eq_false, if_false,
      Bool.false_eq_true]
    cases hvalid : r.method.isValidFor c.id.resource with
    | false => rfl
    | true =>
        simp only [if_true, Bool.not_true, Bool.false_eq_true, if_false]
        cases c.handlers.table.get? r.method <;> rfl
  · simp only [htype, decide_false, ne_eq, not_false_eq_true, if_true, Bool.false_eq_true, if_false]
    rfl

/-- A channel gives a request the verdict that the docket rules, and they agree afterwards. -/
theorem receive (ha : Agrees isGone key c o) (hlive : isGone connection = false) {r : Request}
    {named : ChannelId} (hnamed : Headers.channelId r.headers = .ok named) :
    (c.receive connection (.request r)).2 = (o.rule connection named r).verdict connection r ∧
      Agrees isGone key (c.receive connection (.request r)).1 (o.pass connection r.id) := by
  simp only [ServerChannel.receive, ha.admits connection hlive]
  cases hid : o.admits connection r.id with
  | true => exact ⟨ha.judge hnamed hid, ha.advance hid⟩
  | false =>
      have hpass : o.pass connection r.id = o := by
        rw [Opening.pass, hid, if_neg Bool.false_ne_true]
      rw [hpass]
      refine ⟨?_, ha⟩
      simp only [Opening.rule, hid, Bool.not_false, if_true, ← ha.id]
      rfl

end Agrees

/-! ## The open channels -/

/-- The open channels of a server are those of a docket. -/
def ChannelsAgree (s : Server) (d : Docket) : Prop :=
  ∀ key, Option.Rel (Agrees d.isGone key) (s.channels.get? key) (d.opening? key)

namespace ChannelsAgree

variable {s : Server} {d : Docket}

theorem isSome_lookup (ha : ChannelsAgree s d) (id : ChannelId) :
    s.isOpen id.key = (d.opening? id.key).isSome := by
  have hkey := ha id.key
  rw [isOpen, ChannelTable.lookup, ChannelId.trim_key]
  generalize s.channels.get? id.key = c? at hkey
  generalize d.opening? id.key = o? at hkey
  cases hkey <;> rfl

/-- A channel may be put under its key, if the docket has it there then. -/
theorem register (ha : ChannelsAgree s d) {key : String} {c : ServerChannel} {o : Opening}
    (hsame : Agrees d.isGone key c o) {opening? : String → Option Opening} {cases : List Case}
    (hopening : ∀ other, opening? other = if other = key then some o else d.opening? other) :
    ChannelsAgree { channels := ChannelTable.register s.channels c.id c }
      { d with opening?, cases } := by
  intro other
  have hget : (ChannelTable.register s.channels c.id c).get? other =
      if other = key then some c else s.channels.get? other := by
    rw [ChannelTable.register, Table.get?_insert, hsame.key]
  have hother := ha other
  simp only [hget, hopening]
  by_cases hkey : other = key
  · rw [if_pos hkey, if_pos hkey, hkey]
    exact .some hsame
  · rw [if_neg hkey, if_neg hkey]
    exact hother

/-- A channel is opened on the one exactly if it is on the other. -/
theorem openChannel (ha : ChannelsAgree s d) (id : ChannelId) (handlers : Handlers) :
    ChannelsAgree
      (match s.openChannel id handlers with
        | .ok s' => s'
        | .error _ => s)
      (d.openChannel id handlers) := by
  unfold Server.openChannel Docket.openChannel
  rw [ha.isSome_lookup]
  by_cases htype : handlers.resource = id.resource
  · cases hopen : d.opening? id.key with
    | some o => simpa [htype] using ha
    | none =>
        simp only [htype, ne_eq, not_true_eq_false, if_false, Option.isSome_none,
          Bool.false_eq_true, true_and, if_true]
        have hsame : Agrees d.isGone id.key { id, handlers } { id, handlers } :=
          ⟨rfl, rfl, rfl, htype, fun _ _ _ => rfl⟩
        exact ha.register hsame fun _ => rfl
  · simpa [htype] using ha

/-- A server closes the channels that the docket closes. -/
theorem close (ha : ChannelsAgree s d) (id : String) :
    ChannelsAgree (s.close id) (d.step (.close id)) := by
  intro key
  have hget : (s.close id).channels.get? key =
      if key = Text.trim id then none else s.channels.get? key := Table.get?_erase ..
  have hkey := ha key
  simp only [hget, Docket.step]
  split
  · exact .none
  · exact hkey

/-- A connection that is gone is gone for every channel. -/
theorem disconnect (ha : ChannelsAgree s d) (connection : Nat) :
    ChannelsAgree (s.disconnect connection)
      { d with isGone := fun other => other = connection || d.isGone other } := by
  intro key
  have hkey := ha key
  rw [Server.disconnect, Table.get?_map]
  generalize s.channels.get? key = c? at hkey ⊢
  generalize d.opening? key = o? at hkey ⊢
  cases hkey with
  | none => exact .none
  | some hsome => exact .some (hsome.disconnect connection)

/-- The channel that a message names is open on both or on neither. -/
theorem route_cases (ha : ChannelsAgree s d) {m : Message} {named : ChannelId}
    (hnamed : m.channelId = .ok named) :
    (d.opening? named.key = none ∧ ChannelTable.route s.channels m = .error (.unknown named)) ∨
    ∃ c o, d.opening? named.key = some o ∧ Agrees d.isGone named.key c o ∧
      ChannelTable.route s.channels m = .ok c := by
  have hkey := ha named.key
  simp only [ChannelTable.route, hnamed, ChannelTable.lookup, ChannelId.trim_key]
  generalize s.channels.get? named.key = c? at hkey ⊢
  generalize d.opening? named.key = o? at hkey ⊢
  cases hkey with
  | none => exact .inl ⟨rfl, rfl⟩
  | some hsome => exact .inr ⟨_, _, rfl, hsome, rfl⟩

/-- A message that is no request is ignored, and changes no channel. -/
theorem receive_of_not_request (ha : ChannelsAgree s d) (connection : Nat) {m : Message}
    (hm : ∀ r, m ≠ .request r) :
    (s.receive connection m).2 = .ignored ∧ ChannelsAgree (s.receive connection m).1 d := by
  have hrefuse : ∀ reason, refuse reason m = .ignored := by
    intro reason
    cases m with
    | request r => exact absurd rfl (hm r)
    | response r => rfl
    | event e => rfl
  have hreceive : ∀ c : ServerChannel, c.receive connection m = (c, .ignored) := by
    intro c
    cases m with
    | request r => exact absurd rfl (hm r)
    | response r => rfl
    | event e => rfl
  unfold Server.receive
  cases hnamed : m.channelId with
  | error reason =>
      simp only [ChannelTable.route, hnamed]
      split
      · rename_i hroute
        split at hroute <;> exact ⟨hrefuse _, ha⟩
      · rename_i hroute
        split at hroute <;> cases hroute
  | ok named =>
      rcases ha.route_cases hnamed with ⟨-, hroute⟩ | ⟨c, o, hopen, hsame, hroute⟩
      · rw [hroute]
        exact ⟨hrefuse _, ha⟩
      · simp only [hroute, hreceive]
        refine ⟨trivial, ha.register hsame ?_⟩
        intro other
        split
        · rename_i hother
          rw [hother, hopen]
        · rfl

/-- A server gives a request the verdict that the docket rules, and they agree afterwards. -/
theorem receive (ha : ChannelsAgree s d) {connection : Nat} (hlive : d.isGone connection = false)
    (r : Request) :
    (s.receive connection (.request r)).2 = (d.rule connection r).verdict connection r ∧
      ChannelsAgree (s.receive connection (.request r)).1 (d.enter connection r) := by
  cases hnamed : Headers.channelId r.headers with
  | error reason =>
      have hsame : ChannelsAgree s (d.enter connection r) := by
        intro key
        simp only [Docket.enter, Docket.openingsAfter, hnamed]
        exact ha key
      have hchannel : Message.channelId (.request r) = .error reason := hnamed
      simp only [Server.receive, ChannelTable.route, hchannel, Docket.rule, hnamed]
      cases hget : Headers.get? r.headers Catalogue.channelIdentifier with
      | none =>
          simp only [Headers.contains, Message.headers, hget, Option.isSome_none]
          exact ⟨rfl, hsame⟩
      | some h =>
          simp only [Headers.contains, Message.headers, hget, Option.isSome_some, if_true]
          refine ⟨?_, hsame⟩
          simp only [refuse, refusal, hget]
          rfl
  | ok named =>
      obtain ⟨h, hget⟩ := Headers.get?_of_channelId hnamed
      have hchannel : Message.channelId (.request r) = .ok named := hnamed
      rcases ha.route_cases hchannel with ⟨hnone, hroute⟩ | ⟨c, o, hopen, hsame, hroute⟩
      · simp only [Server.receive, hroute, Docket.rule, hget, hnamed, hnone]
        refine ⟨rfl, ?_⟩
        intro key
        have hkey := ha key
        simp only [Docket.enter, Docket.openingsAfter, hnamed]
        split
        · rename_i hnamedKey
          rw [hnamedKey, hnone] at hkey ⊢
          exact hkey
        · exact hkey
      · obtain ⟨hverdict, hafter⟩ := hsame.receive hlive hnamed
        simp only [Server.receive, hroute, Docket.rule, hget, hnamed, hopen]
        refine ⟨hverdict, ?_⟩
        have hid : (c.receive connection (.request r)).1.id.key = named.key := hafter.key
        refine ha.register hafter ?_
        intro other
        simp only [Docket.openingsAfter, hnamed]
        split
        · rename_i hother
          rw [hother, hopen]
          rfl
        · rfl

end ChannelsAgree

end MediaControl.Server
