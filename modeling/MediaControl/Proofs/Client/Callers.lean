import MediaControl.Proofs.Client.Standing
import MediaControl.Proofs.Table
import MediaControl.Server.Demo
import MediaControl.Server.Registry
import Mathlib.Data.List.Nodup

/-!
# Callers of one channel at the same time (SPEC_FULL §3, §5)

Sending a request takes three steps: the next id is taken, the request is entered under it, and it is
queued on the connection.  Nobody holds the channel from the first step to the last, so a caller may
take its id before another and queue its request behind it.  The server then refuses the request that
came too late, as its id does not exceed the one before it.

Main statements: `refused_iff_overtaken` (over every interleaving, the requests that the server refuses
are those that were overtaken) and `callers_overtake` (which happens).
-/

set_option autoImplicit false

namespace MediaControl

/-! ## Requests one after the other -/

/-- The request is refused because its id does not exceed an earlier one. -/
def Verdict.isLate : Verdict → Bool
  | rejected response => response.status = .nonMonotonicSequence
  | _ => false

namespace ServerChannel

variable {c : ServerChannel} {line : Nat}

/-- The ids that are refused for not exceeding an earlier one, of requests that come in one after the
other on a connection. -/
def refused (c : ServerChannel) (line : Nat) : List Request → List Nat
  | [] => []
  | r :: rest =>
    let (c', verdict) := c.receive line (.request r)
    if verdict.isLate then r.id :: c'.refused line rest else c'.refused line rest

theorem isLate_judge (c : ServerChannel) (line : Nat) (r : Request) :
    (c.judge line r).isLate = false := by
  unfold judge
  split
  · split <;> rfl
  · rfl

theorem refused_cons (c : ServerChannel) (line : Nat) (r : Request) (rest : List Request) :
    c.refused line (r :: rest) =
      if c.isAdvance line r.id then (c.advance line r.id).refused line rest
      else r.id :: c.refused line rest := by
  cases hadvance : c.isAdvance line r.id with
  | true => simp [refused, receive, hadvance, isLate_judge]
  | false =>
      have hlate : (c.reject r .nonMonotonicSequence).isLate = true := rfl
      simp [refused, receive, hadvance, hlate]

theorem isAdvance_eq_false_iff {id : Nat} :
    c.isAdvance line id = false ↔ ∃ last, c.lastIds.get? line = some last ∧ id ≤ last := by
  unfold isAdvance
  split
  · rename_i last hlast
    simp [hlast]
  · rename_i hnone
    simp [hnone]

/-- An id is refused exactly if it does not exceed the last one before the requests, or one among
them that came in earlier. -/
theorem mem_refused_iff {requests : List Request} {id : Nat} :
    id ∈ c.refused line requests ↔
      (id ∈ requests.map Request.id ∧ c.isAdvance line id = false) ∨
        ∃ earlier, id ≤ earlier ∧ [earlier, id].Sublist (requests.map Request.id) := by
  have hcons : ∀ (r : Request) (rest : List Request), (∃ earlier, id ≤ earlier ∧
      [earlier, id].Sublist ((r :: rest).map Request.id)) ↔
        (id ≤ r.id ∧ id ∈ rest.map Request.id) ∨
          ∃ earlier, id ≤ earlier ∧ [earlier, id].Sublist (rest.map Request.id) := by
    intro r rest
    rw [List.map_cons]
    constructor
    · rintro ⟨earlier, hle, hsub⟩
      rcases List.sublist_cons_iff.mp hsub with hsub | ⟨others, heq, hsub⟩
      · exact Or.inr ⟨earlier, hle, hsub⟩
      · obtain ⟨rfl, rfl⟩ := List.cons.inj heq
        exact Or.inl ⟨hle, List.singleton_sublist.mp hsub⟩
    · rintro (⟨hle, hmem⟩ | ⟨earlier, hle, hsub⟩)
      · exact ⟨r.id, hle, (List.singleton_sublist.mpr hmem).cons_cons r.id⟩
      · exact ⟨earlier, hle, hsub.cons r.id⟩
  induction requests generalizing c with
  | nil => simp [refused]
  | cons r rest ih =>
      rw [refused_cons, hcons, List.map_cons, List.mem_cons]
      split
      · rename_i hadvance
        have hlast : (c.advance line r.id).isAdvance line id = false ↔ id ≤ r.id := by
          rw [isAdvance_eq_false_iff, advance, Table.get?_insert, if_pos rfl]
          simp
        have hearlier : c.isAdvance line id = false → id ≤ r.id := by
          rw [isAdvance_eq_false_iff]
          rintro ⟨last, hget, hle⟩
          refine Nat.le_trans hle (Nat.le_of_not_lt fun hlt => ?_)
          have hlate := isAdvance_eq_false_iff.mpr ⟨last, hget, Nat.le_of_lt hlt⟩
          exact Bool.noConfusion (hadvance.symm.trans hlate)
        refine ih.trans ?_
        rw [hlast]
        constructor
        · rintro (⟨hmem, hle⟩ | hsub)
          · exact Or.inr (Or.inl ⟨hle, hmem⟩)
          · exact Or.inr (Or.inr hsub)
        · rintro (⟨rfl | hmem, hlate⟩ | ⟨hle, hmem⟩ | hsub)
          · exact Bool.noConfusion (hadvance.symm.trans hlate)
          · exact Or.inl ⟨hmem, hearlier hlate⟩
          · exact Or.inl ⟨hmem, hle⟩
          · exact Or.inr hsub
      · rename_i hrefused
        have hrefused : c.isAdvance line r.id = false := by simpa using hrefused
        have hlater : id ≤ r.id → c.isAdvance line id = false := by
          intro hle
          obtain ⟨last, hget, hlast⟩ := isAdvance_eq_false_iff.mp hrefused
          exact isAdvance_eq_false_iff.mpr ⟨last, hget, Nat.le_trans hle hlast⟩
        refine (List.mem_cons.trans (or_congr_right ih)).trans ?_
        constructor
        · rintro (rfl | ⟨hmem, hlate⟩ | hsub)
          · exact Or.inl ⟨Or.inl rfl, hrefused⟩
          · exact Or.inl ⟨Or.inr hmem, hlate⟩
          · exact Or.inr (Or.inr hsub)
        · rintro (⟨rfl | hmem, hlate⟩ | ⟨hle, hmem⟩ | hsub)
          · exact Or.inl rfl
          · exact Or.inr (Or.inl ⟨hmem, hlate⟩)
          · exact Or.inr (Or.inl ⟨hmem, hlater hle⟩)
          · exact Or.inr (Or.inr hsub)

end ServerChannel

namespace Session

/-! ## The steps of a caller -/

/-- How far a caller has come with sending its request. -/
inductive Stage where
  | waiting
  /-- it has taken an id -/
  | numbered (id : Nat)
  /-- its request is entered -/
  | entered (id slot : Nat)
  | finished (result : Except Error Pending)

/-- The next step of a caller that wants a request sent on a channel. -/
def advance (number : Nat) (channel : ChannelId) (r : Request) : Stage × Session → Stage × Session
  | (.waiting, s) =>
    if s.isClosed number then (.finished (.error (.ofCause (.channelIsClosed channel))), s)
    else
      let (id, s) := s.takeId number
      (.numbered id, s)
  | (.numbered id, s) =>
    let (slot, s) := s.enter channel id
    (.entered id slot, s)
  | (.entered id slot, s) =>
    let (result, s) := s.submit number channel id slot r
    (.finished result, s)
  | (.finished result, s) => (.finished result, s)

/-- A caller that is never interrupted sends its request. -/
theorem advance_thrice (s : Session) (number : Nat) (channel : ChannelId) (r : Request) :
    (advance number channel r)^[3] (.waiting, s) =
      (.finished (s.sendOn number channel r).1, (s.sendOn number channel r).2) := by
  simp only [Function.iterate_succ, Function.iterate_zero, Function.comp_apply, id_eq, sendOn]
  by_cases hclosed : s.isClosed number = true
  · simp [advance, hclosed]
  · simp [advance, hclosed]

/-- Callers of one channel, told apart by numbers. -/
structure Calls where
  session : Session
  stages : Nat → Stage := fun _ => .waiting
  /-- the callers that have taken an id, in that order -/
  drawn : List Nat := []
  /-- the callers whose requests are queued, in that order -/
  queued : List Nat := []

namespace Calls

/-- A caller takes its next step. -/
def turn (number : Nat) (channel : ChannelId) (rs : Nat → Request) (t : Calls) (i : Nat) : Calls :=
  let (stage, session) := Session.advance number channel (rs i) (t.stages i, t.session)
  { session
    stages := fun j => if j = i then stage else t.stages j
    drawn := match t.stages i, stage with
      | .waiting, .numbered _ => t.drawn ++ [i]
      | _, _ => t.drawn
    queued := match t.stages i, stage with
      | .entered .., .finished (.ok _) => t.queued ++ [i]
      | _, _ => t.queued }

/-- Callers take steps in the given order. -/
def run (number : Nat) (channel : ChannelId) (rs : Nat → Request) (t : Calls) (turns : List Nat) :
    Calls :=
  turns.foldl (turn number channel rs) t

/-- The id that a caller has taken, where `first` was the next id of the channel. -/
def idOf (t : Calls) (first i : Nat) : Nat := first + t.drawn.idxOf i

/-- One caller took its id before the other. -/
def drewBefore (t : Calls) (i j : Nat) : Prop := t.drawn.idxOf i < t.drawn.idxOf j

/-- The requests that were queued. -/
def requests (t : Calls) (c : ClientChannel) (rs : Nat → Request) : List Request :=
  t.queued.map fun i => address (t.idOf c.nextId i) c.id (rs i)

/-- What the stage of a caller says about the ids taken and the requests queued. -/
def Placed (t : Calls) (first i : Nat) : Stage → Prop
  | .waiting => i ∉ t.drawn ∧ i ∉ t.queued
  | .numbered id => i ∈ t.drawn ∧ i ∉ t.queued ∧ id = t.idOf first i
  | .entered id _ => i ∈ t.drawn ∧ i ∉ t.queued ∧ id = t.idOf first i
  | .finished _ => i ∈ t.drawn

/-- Ids were taken one after the other, and the requests queued under them. -/
structure Sound (s : Session) (number : Nat) (c : ClientChannel) (rs : Nat → Request) (t : Calls) :
    Prop where
  channel : t.session.channel? number = some { c with nextId := c.nextId + t.drawn.length }
  closed : t.session.connection.closed = false
  outbound : t.session.connection.outbound =
    s.connection.outbound ++ (t.requests c rs).map Message.request
  placed : ∀ i, t.Placed c.nextId i (t.stages i)
  drawn_nodup : t.drawn.Nodup
  queued_nodup : t.queued.Nodup
  queued_drawn : ∀ i ∈ t.queued, i ∈ t.drawn

variable {s : Session} {number : Nat} {c : ClientChannel} {rs : Nat → Request} {t : Calls}

theorem sound_start (hc : s.channel? number = some c) (hconnection : s.connection.closed = false) :
    Sound s number c rs { session := s } where
  channel := hc
  closed := hconnection
  outbound := by simp [requests]
  placed _ := ⟨List.not_mem_nil, List.not_mem_nil⟩
  drawn_nodup := List.nodup_nil
  queued_nodup := List.nodup_nil
  queued_drawn := by simp

/-- Callers come behind others, or nothing changes. -/
def Extends (i : Nat) (before after : List Nat) : Prop := after = before ∨ after = before ++ [i]

theorem Extends.mem_iff {i j : Nat} {before after : List Nat} (h : Extends i before after)
    (hj : j ≠ i) : j ∈ after ↔ j ∈ before := by
  rcases h with rfl | rfl
  · rfl
  · simp [hj]

theorem Extends.idxOf_eq {i j : Nat} {before after : List Nat} (h : Extends i before after)
    (hj : j ∈ before) : after.idxOf j = before.idxOf j := by
  rcases h with rfl | rfl
  · rfl
  · exact List.idxOf_append_of_mem hj

/-- What another caller does leaves the place of a caller as it is. -/
theorem Placed.other {t' : Calls} {first i j : Nat} {stage : Stage}
    (hdrawn : Extends i t.drawn t'.drawn) (hqueued : Extends i t.queued t'.queued) (hj : j ≠ i)
    (h : t.Placed first j stage) : t'.Placed first j stage := by
  have hid : j ∈ t.drawn → t'.idOf first j = t.idOf first j := fun hmem => by
    rw [idOf, idOf, hdrawn.idxOf_eq hmem]
  cases stage with
  | waiting =>
      rw [Placed, hdrawn.mem_iff hj, hqueued.mem_iff hj]
      exact h
  | numbered id =>
      obtain ⟨hmem, hnone, rfl⟩ := h
      exact ⟨(hdrawn.mem_iff hj).mpr hmem, fun hq => hnone ((hqueued.mem_iff hj).mp hq),
        (hid hmem).symm⟩
  | entered id slot =>
      obtain ⟨hmem, hnone, rfl⟩ := h
      exact ⟨(hdrawn.mem_iff hj).mpr hmem, fun hq => hnone ((hqueued.mem_iff hj).mp hq),
        (hid hmem).symm⟩
  | finished result => exact (hdrawn.mem_iff hj).mpr h

/-- The caller that took its turn is where its stage says, and so are all others. -/
theorem Sound.placed_turn (h : t.Sound s number c rs) {t' : Calls} {i : Nat} {stage : Stage}
    (hdrawn : Extends i t.drawn t'.drawn) (hqueued : Extends i t.queued t'.queued)
    (hstages : t'.stages = fun j => if j = i then stage else t.stages j)
    (hi : t'.Placed c.nextId i stage) (j : Nat) : t'.Placed c.nextId j (t'.stages j) := by
  rw [hstages]
  by_cases hj : j = i
  · subst hj
    simpa using hi
  · simpa [hj] using (h.placed j).other hdrawn hqueued hj

theorem Sound.requests_eq (h : t.Sound s number c rs) {t' : Calls} {i : Nat}
    (hdrawn : Extends i t.drawn t'.drawn) (hqueued : t'.queued = t.queued) :
    t'.requests c rs = t.requests c rs := by
  rw [requests, requests, hqueued]
  refine List.map_congr_left fun j hj => ?_
  rw [idOf, idOf, hdrawn.idxOf_eq (h.queued_drawn j hj)]

section turn

variable (h : t.Sound s number c rs) {i : Nat}

include h

/-- A caller takes the next id of the channel. -/
theorem Sound.draw (hopen : c.isClosed = false) (hstage : t.stages i = .waiting) :
    (t.turn number c.id rs i).Sound s number c rs := by
  have hplaced := h.placed i
  rw [hstage] at hplaced
  have hisopen : t.session.isClosed number = false := by
    rw [isClosed, h.channel]
    exact hopen
  have hid : (t.session.takeId number).1 = c.nextId + t.drawn.length := by
    rw [takeId, h.channel]
    rfl
  have hturn : t.turn number c.id rs i =
      { session := (t.session.takeId number).2
        stages := fun j => if j = i then .numbered (c.nextId + t.drawn.length) else t.stages j
        drawn := t.drawn ++ [i]
        queued := t.queued } := by
    simp [turn, Session.advance, hstage, hisopen, hid]
  have hdrawn : Extends i t.drawn (t.drawn ++ [i]) := Or.inr rfl
  have hrequests : (t.turn number c.id rs i).requests c rs = t.requests c rs :=
    h.requests_eq (by rw [hturn]; exact hdrawn) (by rw [hturn])
  rw [hturn] at hrequests ⊢
  refine ⟨?_, h.closed, ?_, h.placed_turn hdrawn (Or.inl rfl) rfl ?_, ?_, h.queued_nodup, ?_⟩
  · have htaken : (t.session.takeId number).2.channel? number =
        some { c with nextId := c.nextId + t.drawn.length + 1 } := by
      rw [takeId, channel?_modify, if_pos rfl, h.channel]
      rfl
    rw [htaken, List.length_append]
    rfl
  · rw [hrequests]
    exact h.outbound
  · refine ⟨by simp, hplaced.2, ?_⟩
    rw [idOf, List.idxOf_append_of_notMem hplaced.1]
    simp
  · exact List.nodup_append.mpr ⟨h.drawn_nodup, List.nodup_singleton i, by
      rintro j hj k hk rfl
      exact hplaced.1 (List.mem_singleton.mp hk ▸ hj)⟩
  · exact fun j hj => List.mem_append_left _ (h.queued_drawn j hj)

/-- A caller enters its request. -/
theorem Sound.enter {id : Nat} (hstage : t.stages i = .numbered id) :
    (t.turn number c.id rs i).Sound s number c rs := by
  have hplaced := h.placed i
  rw [hstage] at hplaced
  have hturn : t.turn number c.id rs i =
      { session := (t.session.enter c.id id).2
        stages := fun j => if j = i then .entered id (t.session.enter c.id id).1 else t.stages j
        drawn := t.drawn
        queued := t.queued } := by
    simp [turn, Session.advance, hstage]
  rw [hturn]
  exact ⟨h.channel, h.closed, h.outbound,
    h.placed_turn (Or.inl rfl) (Or.inl rfl) rfl hplaced, h.drawn_nodup, h.queued_nodup,
    h.queued_drawn⟩

/-- A caller queues its request behind all others. -/
theorem Sound.queue (hopen : c.isClosed = false) {id slot : Nat}
    (hstage : t.stages i = .entered id slot) : (t.turn number c.id rs i).Sound s number c rs := by
  have hplaced := h.placed i
  rw [hstage] at hplaced
  obtain ⟨hmem, hnone, rfl⟩ := hplaced
  have hisopen : t.session.isClosed number = false := by
    rw [isClosed, h.channel]
    exact hopen
  have hsend : t.session.connection.send (.request (address (t.idOf c.nextId i) c.id (rs i))) =
      .ok { t.session.connection with outbound := t.session.connection.outbound ++
        [.request (address (t.idOf c.nextId i) c.id (rs i))] } :=
    if_neg fun htrue => Bool.noConfusion (h.closed.symm.trans htrue)
  have hsubmit : t.session.submit number c.id (t.idOf c.nextId i) slot (rs i) =
      (.ok { id := t.idOf c.nextId i, slot, limit? := t.session.limit? },
        { t.session with connection := { t.session.connection with
          outbound := t.session.connection.outbound ++
            [.request (address (t.idOf c.nextId i) c.id (rs i))] } }) := by
    rw [submit, hisopen, if_neg Bool.false_ne_true, enqueue, hsend]
  have hturn : t.turn number c.id rs i =
      { session := { t.session with connection := { t.session.connection with
          outbound := t.session.connection.outbound ++
            [.request (address (t.idOf c.nextId i) c.id (rs i))] } }
        stages := fun j => if j = i then
          .finished (.ok { id := t.idOf c.nextId i, slot, limit? := t.session.limit? }) else t.stages j
        drawn := t.drawn
        queued := t.queued ++ [i] } := by
    simp [turn, Session.advance, hstage, hsubmit]
  rw [hturn]
  refine ⟨h.channel, h.closed, ?_, h.placed_turn (Or.inl rfl) (Or.inr rfl) rfl hmem, h.drawn_nodup,
    ?_, ?_⟩
  · simp only [requests, List.map_append, ← List.append_assoc]
    rw [h.outbound]
    rfl
  · exact List.nodup_append.mpr ⟨h.queued_nodup, List.nodup_singleton i, by
      rintro j hj k hk rfl
      exact hnone (List.mem_singleton.mp hk ▸ hj)⟩
  · intro j hj
    rcases List.mem_append.mp hj with hj | hj
    · exact h.queued_drawn j hj
    · exact List.mem_singleton.mp hj ▸ hmem

/-- A caller that has finished stays so. -/
theorem Sound.rest {result : Except Error Pending} (hstage : t.stages i = .finished result) :
    (t.turn number c.id rs i).Sound s number c rs := by
  have hplaced := h.placed i
  rw [hstage] at hplaced
  have hturn : t.turn number c.id rs i =
      { t with stages := fun j => if j = i then .finished result else t.stages j } := by
    simp [turn, Session.advance, hstage]
  rw [hturn]
  exact ⟨h.channel, h.closed, h.outbound,
    h.placed_turn (Or.inl rfl) (Or.inl rfl) rfl hplaced, h.drawn_nodup, h.queued_nodup,
    h.queued_drawn⟩

theorem Sound.turn (hopen : c.isClosed = false) (i : Nat) :
    (t.turn number c.id rs i).Sound s number c rs := by
  cases hstage : t.stages i with
  | waiting => exact h.draw hopen hstage
  | numbered id => exact h.enter hstage
  | entered id slot => exact h.queue hopen hstage
  | finished result => exact h.rest hstage

theorem Sound.run (hopen : c.isClosed = false) (turns : List Nat) :
    (t.run number c.id rs turns).Sound s number c rs := by
  induction turns generalizing t with
  | nil => exact h
  | cons i turns ih => exact ih (h.turn hopen i)

end turn

/-! ## What the server makes of it -/

theorem map_id_requests (t : Calls) (c : ClientChannel) (rs : Nat → Request) :
    (t.requests c rs).map Request.id = t.queued.map (t.idOf c.nextId) := by
  rw [requests, List.map_map]
  rfl

theorem idOf_lt_iff (t : Calls) (first i j : Nat) :
    t.idOf first i < t.idOf first j ↔ t.drewBefore i j := by
  rw [idOf, idOf, drewBefore, Nat.add_lt_add_iff_left]

theorem Sound.idOf_injOn (h : t.Sound s number c rs) {i j : Nat} (hi : i ∈ t.queued)
    (heq : t.idOf c.nextId i = t.idOf c.nextId j) : i = j :=
  (List.idxOf_inj (h.queued_drawn i hi)).mp (Nat.add_left_cancel heq)

/-- Of two requests one came in behind the other exactly if its caller queued it behind the other. -/
theorem Sound.pair_sublist_iff (h : t.Sound s number c rs) {i : Nat} (hi : i ∈ t.queued)
    {earlier : Nat} :
    [earlier, t.idOf c.nextId i].Sublist (t.queued.map (t.idOf c.nextId)) ↔
      ∃ j, earlier = t.idOf c.nextId j ∧ [j, i].Sublist t.queued := by
  rw [List.sublist_map_iff]
  constructor
  · rintro ⟨pair, hsub, heq⟩
    obtain ⟨j, rest, rfl, rfl, hrest⟩ := List.map_eq_cons_iff.mp heq.symm
    obtain ⟨k, none, rfl, hk, hnone⟩ := List.map_eq_cons_iff.mp hrest
    obtain rfl := List.map_eq_nil_iff.mp hnone
    obtain rfl := h.idOf_injOn hi hk.symm
    exact ⟨j, rfl, hsub⟩
  · rintro ⟨j, rfl, hsub⟩
    exact ⟨[j, i], hsub, rfl⟩

/-- Two callers whose requests are queued did not take their ids at the same time. -/
theorem Sound.drewBefore_iff (h : t.Sound s number c rs) {i j : Nat}
    (hsub : [j, i].Sublist t.queued) : t.drewBefore j i ↔ ¬ t.drewBefore i j := by
  have hne : j ≠ i := by
    have hnodup := hsub.nodup h.queued_nodup
    simpa using hnodup
  have hids : t.drawn.idxOf j ≠ t.drawn.idxOf i := fun heq =>
    hne ((List.idxOf_inj (h.queued_drawn j (hsub.mem (by simp)))).mp heq)
  rw [drewBefore, drewBefore]
  omega

/-- The request of a caller is refused exactly if that of a caller with a later id was queued
earlier. -/
theorem Sound.mem_refused_iff (h : t.Sound s number c rs) {sc : ServerChannel} {line : Nat}
    (hfresh : ∀ last, sc.lastIds.get? line = some last → last < c.nextId) {i : Nat}
    (hi : i ∈ t.queued) :
    t.idOf c.nextId i ∈ sc.refused line (t.requests c rs) ↔
      ∃ j, [j, i].Sublist t.queued ∧ t.drewBefore i j := by
  have hadvance : sc.isAdvance line (t.idOf c.nextId i) ≠ false := by
    rw [ne_eq, ServerChannel.isAdvance_eq_false_iff]
    rintro ⟨last, hlast, hle⟩
    have hlt := hfresh last hlast
    have hfirst : c.nextId ≤ t.idOf c.nextId i := Nat.le_add_right _ _
    omega
  rw [ServerChannel.mem_refused_iff, map_id_requests]
  constructor
  · rintro (⟨-, hlate⟩ | ⟨earlier, hle, hsub⟩)
    · exact absurd hlate hadvance
    · obtain ⟨j, rfl, hpair⟩ := (h.pair_sublist_iff hi).mp hsub
      refine ⟨j, hpair, ?_⟩
      by_contra hnot
      have hbefore := (idOf_lt_iff t c.nextId j i).mpr ((h.drewBefore_iff hpair).mpr hnot)
      omega
  · rintro ⟨j, hpair, hbefore⟩
    exact Or.inr ⟨_, Nat.le_of_lt ((idOf_lt_iff t c.nextId i j).mpr hbefore),
      (h.pair_sublist_iff hi).mpr ⟨j, rfl, hpair⟩⟩

/-- No request is refused exactly if the callers queued theirs in the order in which they took their
ids. -/
theorem Sound.refused_eq_nil_iff (h : t.Sound s number c rs) {sc : ServerChannel} {line : Nat}
    (hfresh : ∀ last, sc.lastIds.get? line = some last → last < c.nextId) :
    sc.refused line (t.requests c rs) = [] ↔ t.queued.Pairwise t.drewBefore := by
  rw [List.pairwise_iff_forall_sublist]
  constructor
  · intro hnone j i hsub
    refine (h.drewBefore_iff hsub).mpr fun hbefore => ?_
    have hrefused := (h.mem_refused_iff hfresh (hsub.mem (by simp))).mpr ⟨j, hsub, hbefore⟩
    rw [hnone] at hrefused
    cases hrefused
  · intro hordered
    refine List.eq_nil_iff_forall_not_mem.mpr fun id hid => ?_
    have hmem : id ∈ t.queued.map (t.idOf c.nextId) := by
      have hcases := ServerChannel.mem_refused_iff.mp hid
      rw [map_id_requests] at hcases
      rcases hcases with ⟨hmem, -⟩ | ⟨earlier, -, hsub⟩
      · exact hmem
      · exact hsub.mem (by simp)
    obtain ⟨i, hi, rfl⟩ := List.mem_map.mp hmem
    obtain ⟨j, hsub, hbefore⟩ := (h.mem_refused_iff hfresh hi).mp hid
    exact (h.drewBefore_iff hsub).mp (hordered hsub) hbefore

/-- Over every interleaving of the steps of callers of an open channel, each of them has an id of its
own, and the server refuses the requests that were overtaken: that of a caller is refused exactly if a
caller that took its id later queued its request earlier.  So the ids increase in the queue, and nothing
is refused, exactly if the callers queue their requests in the order in which they took their ids. -/
theorem refused_iff_overtaken (hc : s.channel? number = some c) (hopen : c.isClosed = false)
    (hconnection : s.connection.closed = false) (rs : Nat → Request) (turns : List Nat)
    {sc : ServerChannel} {line : Nat}
    (hfresh : ∀ last, sc.lastIds.get? line = some last → last < c.nextId) :
    let t := run number c.id rs { session := s } turns
    t.session.connection.outbound =
        s.connection.outbound ++ (t.requests c rs).map Message.request ∧
      (t.drawn.Nodup ∧ t.queued.Nodup ∧ ∀ i ∈ t.queued, i ∈ t.drawn) ∧
      (∀ i ∈ t.queued, t.idOf c.nextId i ∈ sc.refused line (t.requests c rs) ↔
        ∃ j, [j, i].Sublist t.queued ∧ t.drewBefore i j) ∧
      (((t.requests c rs).map Request.id).Pairwise (· < ·) ↔ t.queued.Pairwise t.drewBefore) ∧
      (sc.refused line (t.requests c rs) = [] ↔ t.queued.Pairwise t.drewBefore) := by
  have h : Sound s number c rs (run number c.id rs { session := s } turns) :=
    (sound_start hc hconnection).run hopen turns
  refine ⟨h.outbound, ⟨h.drawn_nodup, h.queued_nodup, h.queued_drawn⟩,
    fun i hi => h.mem_refused_iff hfresh hi, ?_, h.refused_eq_nil_iff hfresh⟩
  rw [map_id_requests, List.pairwise_map]
  simp only [idOf_lt_iff]

/-! ## Two callers -/

/-- A channel that two callers share. -/
def sharedChannel : ChannelId := ⟨"c", .speechSynth, by decide⟩

/-- A session with the channel open. -/
def sharedSession : Session :=
  { connection := { id := 0, peer := "server" }, channels := [{ id := sharedChannel }] }

/-- The channel at the server. -/
def sharedServer : ServerChannel :=
  { id := sharedChannel, handlers := Demo.handlers .speechSynth }

/-- What each of the two callers wants sent. -/
def sharedRequest : Request := Request.new .setParams sharedChannel

/-- The first caller takes an id, the second sends its request, and then the first sends its own. -/
def overtakingTurns : List Nat := [0, 1, 1, 1, 0, 0]

/-- What comes of these turns. -/
def overtaken : Calls :=
  run 0 sharedChannel (fun _ => sharedRequest) { session := sharedSession } overtakingTurns

theorem refused_iff_overtaken_shared :
    (sharedSession.channel? 0 = some { id := sharedChannel } ∧
      (∀ last, sharedServer.lastIds.get? 0 = some last → last < 1)) ∧
    (overtaken.drawn = [0, 1] ∧ overtaken.queued = [1, 0]) ∧
    (sharedServer.refused 0 (overtaken.requests { id := sharedChannel } fun _ => sharedRequest) = [] ↔
      overtaken.queued.Pairwise overtaken.drewBefore) := by
  have hchannel : sharedSession.channel? 0 = some { id := sharedChannel } := by rfl
  have hfresh : ∀ last, sharedServer.lastIds.get? 0 = some last → last < 1 := by
    intro last hlast
    cases hlast
  exact ⟨⟨hchannel, hfresh⟩, ⟨by rfl, by rfl⟩, (refused_iff_overtaken hchannel rfl rfl
    (fun _ => sharedRequest) overtakingTurns hfresh).2.2.2.2⟩

/-- The second request is queued before the first, and the server refuses the first for its id. -/
theorem callers_overtake :
    overtaken.session.connection.outbound.map Message.id = [2, 1] ∧
    ¬ (overtaken.session.connection.outbound.map Message.id).Pairwise (· < ·) ∧
    ((sharedServer.receive 0 (.request (address 2 sharedChannel sharedRequest))).1.receive 0
        (.request (address 1 sharedChannel sharedRequest))).2 =
      .rejected (.new 1 .nonMonotonicSequence .complete sharedChannel) := by
  have hids : overtaken.session.connection.outbound.map Message.id = [2, 1] := by rfl
  refine ⟨hids, ?_, by rfl⟩
  rw [hids]
  decide

end Calls

end Session

end MediaControl
