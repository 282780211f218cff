import MediaControl.Client.Session
import MediaControl.Proofs.Correlator.Runs
import Mathlib.Logic.Relation

/-!
# Reading answers

Whoever waits for the completion of a request takes what comes for it, item by item, until an item
tells how the request ended.  What has been taken is always the front of what the correlator lets come
for one request, so two items are enough, whatever else happens between the takes.

Main statements: `Unfinished.tells` (what the next item tells), `Sound.step` and `Sound.reaches` (what
was taken and what was told go together, whatever happens), and `Sound.reaches_completion`,
`Sound.reaches_response` and `Sound.outcomeAfter` (what they come to for completions and responses).
-/

set_option autoImplicit false

namespace MediaControl

open Correlator (IsLegal Issue Ledger Progress Settled waiting)

namespace Pending

/-! ## What there is to tell -/

/-- How a request ended, for somebody who waited for its completion and has taken these items: with the
response, if it is no success, whatever its state; with a response that completes the request; with the
event that does, behind another response; or with the failure that came instead of either. -/
inductive Outcome : List (Except Error Message) → Except Error Message → Prop
  | refused (r : Response) (hr : r.status.isSuccess = false) :
      Outcome [.ok (.response r)] (.error (.ofCause (.failedRequest r)))
  | answered (r : Response) (hr : r.status.isSuccess = true) (hstate : r.state = .complete) :
      Outcome [.ok (.response r)] (.ok (.response r))
  | completed (r : Response) (e : Event) (hr : r.status.isSuccess = true)
      (hstate : r.state ≠ .complete) (he : e.state = .complete) :
      Outcome [.ok (.response r), .ok (.event e)] (.ok (.event e))
  | failed (reason : Error) : Outcome [.error (.closing reason)] (.error (.closing reason))
  | cutOff (r : Response) (hr : r.status.isSuccess = true) (hstate : r.state ≠ .complete)
      (reason : Error) :
      Outcome [.ok (.response r), .error (.closing reason)] (.error (.closing reason))

/-- Items that do not tell yet how the request ends: none, or a success that does not complete it. -/
inductive Unfinished : List (Except Error Message) → Prop
  | unread : Unfinished []
  | begun (r : Response) (hr : r.status.isSuccess = true) (hstate : r.state ≠ .complete) :
      Unfinished [.ok (.response r)]

/-- What somebody who waited for the completion was told, if anything, is what the items tell. -/
def Tells (items : List (Except Error Message)) : Option (Except Error Message) → Prop
  | some result => Outcome items result
  | none => Unfinished items

/-- What somebody who waited for the response was told, if anything, is the first item: the response,
or the failure that came instead. -/
inductive TellsFirst : List (Except Error Message) → Option (Except Error Response) → Prop
  | unread : TellsFirst [] none
  | response (r : Response) : TellsFirst [.ok (.response r)] (some (.ok r))
  | failed (reason : Error) :
      TellsFirst [.error (.closing reason)] (some (.error (.closing reason)))

/-- How a request ended that began with the response, a success that does not complete it: with the event
that does, or with the failure that came instead. -/
inductive OutcomeAfter (r : Response) : List (Except Error Message) → Except Error Message → Prop
  | completed (e : Event) (he : e.state = .complete) :
      OutcomeAfter r [.ok (.response r), .ok (.event e)] (.ok (.event e))
  | cutOff (reason : Error) :
      OutcomeAfter r [.ok (.response r), .error (.closing reason)] (.error (.closing reason))

variable {items : List (Except Error Message)} {told : Option (Except Error Message)}

theorem Tells.length_le (h : Tells items told) : items.length ≤ 2 := by
  cases told with
  | none => cases h with
    | unread => exact Nat.zero_le 2
    | begun r hr hstate => exact Nat.le_succ 1
  | some result => cases h with
    | refused r hr => exact Nat.le_succ 1
    | answered r hr hstate => exact Nat.le_succ 1
    | completed r e hr hstate he => exact Nat.le_refl 2
    | failed reason => exact Nat.le_succ 1
    | cutOff r hr hstate reason => exact Nat.le_refl 2

theorem Unfinished.length_le (h : Unfinished items) : items.length ≤ 1 := by
  cases h with
  | unread => exact Nat.zero_le 1
  | begun r hr hstate => exact Nat.le_refl 1

/-- Items after which the request is over tell how it ended. -/
theorem Unfinished.not_settled (h : Unfinished items) : ¬ Settled items := by
  cases h with
  | unread => exact Progress.sent.not_settled
  | begun r hr hstate => exact (Progress.begun r hstate).not_settled

/-- Once a success that does not complete the request has been taken, the next item tells the rest. -/
theorem Outcome.after {result : Except Error Message} (h : Outcome items result) {r : Response}
    (hr : r.status.isSuccess = true) (hstate : r.state ≠ .complete)
    (hfront : [.ok (.response r)] <+: items) : OutcomeAfter r items result := by
  cases h with
  | refused r' hr' =>
      cases List.cons_prefix_cons.mp hfront |>.1
      cases hr.symm.trans hr'
  | answered r' hr' hcomplete =>
      cases List.cons_prefix_cons.mp hfront |>.1
      exact absurd hcomplete hstate
  | completed r' e hr' hstate' he =>
      cases List.cons_prefix_cons.mp hfront |>.1
      exact .completed e he
  | failed reason => cases List.cons_prefix_cons.mp hfront |>.1
  | cutOff r' hr' hstate' reason =>
      cases List.cons_prefix_cons.mp hfront |>.1
      exact .cutOff reason

theorem TellsFirst.eq_of_response {r : Response} (h : TellsFirst items (some (.ok r))) :
    items = [.ok (.response r)] := by
  cases h
  rfl

theorem completionOf_of_refused {r : Response} (hr : r.status.isSuccess = false) :
    completionOf (.ok (.response r)) = some (.error (.ofCause (.failedRequest r))) := by
  simp [completionOf, Response.succeeded, hr]

theorem completionOf_of_succeeded {r : Response} (hr : r.status.isSuccess = true) :
    completionOf (.ok (.response r)) =
      if r.state = .complete then some (.ok (.response r)) else none := by
  simp [completionOf, Response.succeeded, RequestState.isTerminal, hr]

/-- A response tells how the request ended, or does not yet. -/
theorem tells_response (r : Response) :
    Tells [.ok (.response r)] (completionOf (.ok (.response r))) := by
  cases hr : r.status.isSuccess with
  | false =>
      rw [completionOf_of_refused hr]
      exact .refused r hr
  | true =>
      rw [completionOf_of_succeeded hr]
      split
      · rename_i hstate
        exact .answered r hr hstate
      · rename_i hstate
        exact .begun r hr hstate

/-- Of what comes for one request, the next item tells how it ended, or is the first of two. -/
theorem Unfinished.tells (h : Unfinished items) {item : Except Error Message}
    {rest : List (Except Error Message)} (hlegal : IsLegal (items ++ item :: rest)) :
    Tells (items ++ [item]) (completionOf item) := by
  obtain ⟨whole, hwhole, hfront⟩ := hlegal
  cases h with
  | unread =>
      cases hwhole with
      | answered r hstate =>
          obtain ⟨rfl, -⟩ := List.cons_prefix_cons.mp hfront
          exact tells_response r
      | completed r e hstate he =>
          obtain ⟨rfl, -⟩ := List.cons_prefix_cons.mp hfront
          exact tells_response r
      | failed reason =>
          obtain ⟨rfl, -⟩ := List.cons_prefix_cons.mp hfront
          exact .failed reason
      | cutOff r hstate reason =>
          obtain ⟨rfl, -⟩ := List.cons_prefix_cons.mp hfront
          exact tells_response r
  | begun r hr hnot =>
      cases hwhole with
      | answered r' hstate => simp at hfront
      | completed r' e hstate he =>
          obtain ⟨hsame, hnext⟩ := List.cons_prefix_cons.mp hfront
          obtain ⟨rfl, -⟩ := List.cons_prefix_cons.mp hnext
          have htold : completionOf (.ok (.event e)) = some (.ok (.event e)) := by
            simp [completionOf, RequestState.isTerminal, he]
          rw [htold]
          exact .completed r e hr hnot he
      | failed reason => simp at hfront
      | cutOff r' hstate reason =>
          obtain ⟨hsame, hnext⟩ := List.cons_prefix_cons.mp hfront
          obtain ⟨rfl, -⟩ := List.cons_prefix_cons.mp hnext
          exact .cutOff r hr hnot reason

/-- The first item that comes for a request is its response or a failure. -/
theorem tellsFirst {item : Except Error Message} {rest : List (Except Error Message)}
    (hlegal : IsLegal (item :: rest)) : TellsFirst [item] (some (responseOf item)) := by
  obtain ⟨whole, hwhole, hfront⟩ := hlegal
  cases hwhole with
  | answered r hstate =>
      obtain ⟨rfl, -⟩ := List.cons_prefix_cons.mp hfront
      exact .response r
  | completed r e hstate he =>
      obtain ⟨rfl, -⟩ := List.cons_prefix_cons.mp hfront
      exact .response r
  | failed reason =>
      obtain ⟨rfl, -⟩ := List.cons_prefix_cons.mp hfront
      exact .failed reason
  | cutOff r hstate reason =>
      obtain ⟨rfl, -⟩ := List.cons_prefix_cons.mp hfront
      exact .response r

end Pending

/-! ## Reading -/

/-- The operation leaves it to others to take from the slot and to let it go. -/
def Correlator.Op.spares (slot : Nat) : Correlator.Op → Prop
  | .take other | .drop other => slot ≠ other
  | _ => True

/-- A run of a correlator with somebody who takes items from a slot until one tells what they wait for. -/
structure Reading (β : Type) where
  ledger : Ledger
  /-- what they were told -/
  told : Option β := none

namespace Reading

variable {β : Type}

/-- Something else happens, or an item is taken and judged. -/
inductive Step (judge : Except Error Message → Option β) (slot : Nat) : Reading β → Reading β → Prop
  | other (d : Reading β) {op : Correlator.Op} (hop : op.spares slot) :
      Step judge slot d { d with ledger := d.ledger.step op }
  | read (l : Ledger) {item : Except Error Message} {c : Correlator}
      (htake : l.correlator.take? slot = some (item, c)) :
      Step judge slot ⟨l, none⟩ ⟨l.step (.take slot), judge item⟩

/-- Whatever a reading comes to, over any number of steps. -/
abbrev Reaches (judge : Except Error Message → Option β) (slot : Nat) :
    Reading β → Reading β → Prop :=
  Relation.ReflTransGen (Step judge slot)

variable {judge : Except Error Message → Option β} {slot : Nat}

theorem reaches_run (ops : List Correlator.Op) (hops : ∀ op ∈ ops, op.spares slot) (d : Reading β) :
    Reaches judge slot d { d with ledger := d.ledger.run ops } := by
  induction ops generalizing d with
  | nil => exact .refl
  | cons op ops ih =>
      have hfirst : Step judge slot d { d with ledger := d.ledger.step op } :=
        .other d (hops op (List.mem_cons_self ..))
      exact .head hfirst (ih (fun op hop => hops op (List.mem_cons_of_mem _ hop)) _)

/-- What has been taken from the slot and what they were told go together as the law has it. -/
structure Sound (i : Issue) (law : List (Except Error Message) → Option β → Prop) (d : Reading β) :
    Prop where
  ledger : d.ledger.Sound
  issued : i ∈ d.ledger.issued
  lawful : law (d.ledger.gone i.slot) d.told

end Reading

/-! ## What a step of the run changes -/

theorem Correlator.Settled.length_le {items : List (Except Error Message)} (h : Settled items) :
    items.length ≤ 2 := by
  cases h with
  | answered r hr => exact Nat.le_succ 1
  | completed r e hr he => exact Nat.le_refl 2
  | failed reason => exact Nat.le_succ 1
  | cutOff r hr reason => exact Nat.le_refl 2

namespace Correlator.Ledger

theorem run_append (l : Ledger) (ops later : List Op) :
    l.run (ops ++ later) = (l.run ops).run later :=
  List.foldl_append

theorem gone_step (l : Ledger) {op : Op} {slot : Nat} (hop : op.spares slot) :
    (l.step op).gone slot = l.gone slot := by
  cases op with
  | take other =>
      rw [step]
      split
      · exact if_neg hop
      · rfl
  | drop other => exact if_neg hop
  | _ => rfl

theorem gone_run (l : Ledger) {ops : List Op} {slot : Nat} (hops : ∀ op ∈ ops, op.spares slot) :
    (l.run ops).gone slot = l.gone slot := by
  induction ops generalizing l with
  | nil => rfl
  | cons op ops ih =>
      have hrest := ih (l.step op) fun op hop => hops op (List.mem_cons_of_mem _ hop)
      exact hrest.trans (l.gone_step (hops op (List.mem_cons_self ..)))

theorem mem_issued_step {l : Ledger} {i : Issue} (hi : i ∈ l.issued) (op : Op) :
    i ∈ (l.step op).issued := by
  cases op with
  | register channel id => exact List.mem_cons_of_mem _ hi
  | take slot =>
      rw [step]
      split
      · exact hi
      · exact hi
  | _ => exact hi

variable {l : Ledger} {slot : Nat} {item : Except Error Message} {c : Correlator}

theorem step_take (htake : l.correlator.take? slot = some (item, c)) :
    l.step (.take slot) = { l with correlator := c, gone := leave l.gone slot [item] } := by
  rw [step, htake]

theorem gone_take (htake : l.correlator.take? slot = some (item, c)) :
    (l.step (.take slot)).gone slot = l.gone slot ++ [item] := by
  rw [step_take htake]
  exact if_pos rfl

theorem exists_received (htake : l.correlator.take? slot = some (item, c)) :
    ∃ rest, l.received slot = l.gone slot ++ item :: rest := by
  obtain ⟨rest, hline, -⟩ := take?_eq_some htake
  exact ⟨rest, by rw [received, waiting, hline]; rfl⟩

end Correlator.Ledger

namespace Reading

/-- What has been taken stays taken. -/
theorem Reaches.gone_prefix {β : Type} {judge : Except Error Message → Option β} {slot : Nat}
    {d d' : Reading β} (hreaches : Reaches judge slot d d') :
    d.ledger.gone slot <+: d'.ledger.gone slot := by
  induction hreaches with
  | refl => exact List.prefix_rfl
  | tail _ hstep ih =>
      refine ih.trans ?_
      cases hstep with
      | other _ hop => exact ⟨[], (List.append_nil _).trans (Ledger.gone_step _ hop).symm⟩
      | read l htake =>
          rw [Ledger.gone_take htake]
          exact List.prefix_append _ _

section Sound

variable {β : Type} {judge : Except Error Message → Option β} {i : Issue}
  {law : List (Except Error Message) → Option β → Prop} {d d' : Reading β}
  (hjudge : ∀ items item rest, law items none → IsLegal (items ++ item :: rest) →
    law (items ++ [item]) (judge item))

include hjudge

theorem Sound.step (hs : d.Sound i law) (hstep : Step judge i.slot d d') : d'.Sound i law := by
  cases hstep with
  | @other _ op hop =>
      refine ⟨hs.ledger.step op, Ledger.mem_issued_step hs.issued op, ?_⟩
      exact (d.ledger.gone_step hop).symm ▸ hs.lawful
  | @read l item c htake =>
      refine ⟨hs.ledger.step (.take i.slot), Ledger.mem_issued_step hs.issued (.take i.slot), ?_⟩
      obtain ⟨rest, hreceived⟩ := Ledger.exists_received htake
      rw [Ledger.gone_take htake]
      exact hjudge _ item rest hs.lawful (hreceived ▸ hs.ledger.isLegal i hs.issued)

theorem Sound.reaches (hs : d.Sound i law) (hreaches : Reaches judge i.slot d d') :
    d'.Sound i law := by
  induction hreaches with
  | refl => exact hs
  | tail _ hstep ih => exact ih.step hjudge hstep

end Sound

/-! ## What readings tell -/

section Tells

open Pending (Tells TellsFirst OutcomeAfter)

variable {i : Issue}

/-- A reading for the completion of a request tells how it ended. -/
theorem Sound.reaches_completion {d d' : Reading (Except Error Message)} (hs : d.Sound i Tells)
    (hreaches : Reaches Pending.completionOf i.slot d d') : d'.Sound i Tells := by
  refine hs.reaches ?_ hreaches
  intro items item rest hunfinished hlegal
  exact Pending.Unfinished.tells hunfinished hlegal

/-- A reading for the response tells the first item. -/
theorem Sound.reaches_response {d d' : Reading (Except Error Response)} (hs : d.Sound i TellsFirst)
    (hreaches : Reaches (fun item => some (Pending.responseOf item)) i.slot d d') :
    d'.Sound i TellsFirst := by
  refine hs.reaches ?_ hreaches
  intro items item rest hunread hlegal
  cases hunread
  exact Pending.tellsFirst hlegal

/-- Where a reading for the response told of a success which does not complete the request, one for the
completion may begin. -/
theorem Sound.begun {d : Reading (Except Error Response)} (hs : d.Sound i TellsFirst) {r : Response}
    (htold : d.told = some (.ok r)) (hr : r.status.isSuccess = true) (hstate : r.state ≠ .complete) :
    Reading.Sound i Tells ⟨d.ledger, none⟩ := by
  have hbegun : d.ledger.gone i.slot = [.ok (.response r)] :=
    Pending.TellsFirst.eq_of_response (htold ▸ hs.lawful)
  exact ⟨hs.ledger, hs.issued, hbegun ▸ .begun r hr hstate⟩

/-- A reading for the completion that begins where one for the response told of a success which does not
complete the request, tells what came behind that. -/
theorem Sound.outcomeAfter {d : Reading (Except Error Response)} (hs : d.Sound i TellsFirst)
    {r : Response} (htold : d.told = some (.ok r)) (hr : r.status.isSuccess = true)
    (hstate : r.state ≠ .complete) {d' : Reading (Except Error Message)}
    {result : Except Error Message}
    (hreaches : Reaches Pending.completionOf i.slot ⟨d.ledger, none⟩ d')
    (htold' : d'.told = some result) : OutcomeAfter r (d'.ledger.gone i.slot) result := by
  have hbegun : d.ledger.gone i.slot = [.ok (.response r)] :=
    Pending.TellsFirst.eq_of_response (htold ▸ hs.lawful)
  have hend := ((hs.begun htold hr hstate).reaches_completion hreaches).lawful
  rw [htold'] at hend
  exact Pending.Outcome.after hend hr hstate (hbegun ▸ hreaches.gone_prefix)

end Tells

end Reading

end MediaControl
