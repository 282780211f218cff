import MediaControl.Proofs.Correlator.Slots

/-!
# What becomes of a message

A request is sent, perhaps begun, and over: what has come for it so far decides what may come next,
and a message that may not come next is handed back.

Main statements: `handle_cases` (a message is put into one slot or handed back) and `Progress.finish`,
`Progress.advance` and `Progress.fail` (what a slot has been given then).
-/

set_option autoImplicit false

namespace MediaControl.Correlator

/-! ## What a slot is given -/

/-- What has come in all for a request that is over: the response that completes it, or another
response and the event that completes it, or a failure in the place of either. -/
inductive Settled : List (Except Error Message) → Prop
  | answered (r : Response) (hr : r.state = .complete) : Settled [.ok (.response r)]
  | completed (r : Response) (e : Event) (hr : r.state ≠ .complete) (he : e.state = .complete) :
      Settled [.ok (.response r), .ok (.event e)]
  | failed (reason : Error) : Settled [.error (.closing reason)]
  | cutOff (r : Response) (hr : r.state ≠ .complete) (reason : Error) :
      Settled [.ok (.response r), .error (.closing reason)]

/-- What has come so far for a request that waits. -/
inductive Progress : Awaited → List (Except Error Message) → Prop
  | sent : Progress .response []
  | begun (r : Response) (hr : r.state ≠ .complete) : Progress .completion [.ok (.response r)]

/-- Nothing has come that could not be the front of what comes in all. -/
def IsLegal (items : List (Except Error Message)) : Prop := ∃ whole, Settled whole ∧ items <+: whole

variable {awaits : Awaited} {items : List (Except Error Message)} {m : Message}

theorem Settled.isLegal (h : Settled items) : IsLegal items := ⟨items, h, List.prefix_rfl⟩

/-- A failure ends the matter. -/
theorem Progress.fail (h : Progress awaits items) (reason : Error) :
    Settled (items ++ [.error (.closing reason)]) := by
  cases h with
  | sent => exact .failed reason
  | begun r hr => exact .cutOff r hr reason

theorem Progress.isLegal (h : Progress awaits items) : IsLegal items :=
  ⟨_, h.fail (.ofCause .peerClosed), List.prefix_append items _⟩

theorem Progress.not_settled (h : Progress awaits items) : ¬ Settled items := by
  intro hsettled
  cases h with
  | sent => cases hsettled
  | begun r hr =>
      cases hsettled with
      | answered r hcomplete => exact hr hcomplete

/-- A message after which nothing is waited for ends the matter. -/
theorem Progress.finish (h : Progress awaits items) (hfits : fits awaits m = some true) :
    Settled (items ++ [.ok m]) := by
  cases h with
  | sent =>
      cases m with
      | response r => exact .answered r (by simpa [fits, RequestState.isTerminal] using hfits)
      | request r => cases hfits
      | event e => cases hfits
  | begun r hr =>
      cases m with
      | event e =>
          refine .completed r e hr ?_
          by_cases he : e.state = .complete
          · exact he
          · simp [fits, RequestState.isTerminal, he] at hfits
      | request r => cases hfits
      | response r => cases hfits

/-- Any other message that is waited for is the response of a request that has begun. -/
theorem Progress.advance (h : Progress awaits items) (hfits : fits awaits m = some false) :
    Progress .completion (items ++ [.ok m]) := by
  cases h with
  | sent =>
      cases m with
      | response r => exact .begun r (by simpa [fits, RequestState.isTerminal] using hfits)
      | request r => cases hfits
      | event e => cases hfits
  | begun r hr =>
      cases m with
      | event e =>
          by_cases he : e.state = .complete
          · simp [fits, RequestState.isTerminal, he] at hfits
          · simp [fits, RequestState.isTerminal, he] at hfits
      | request r => cases hfits
      | response r => cases hfits

theorem Progress.isLegal_append (h : Progress awaits items) {ends : Bool}
    (hfits : fits awaits m = some ends) : IsLegal (items ++ [.ok m]) := by
  cases ends with
  | true => exact (h.finish hfits).isLegal
  | false => exact (h.advance hfits).isLegal

/-- A request is not over while something has yet to come of all that comes for it. -/
theorem Settled.not_front {whole : List (Except Error Message)} (h : Settled whole)
    (hfront : items ++ [.ok m] <+: whole) : ¬ Settled items := by
  obtain ⟨rest, rfl⟩ := hfront
  intro hitems
  cases hitems with
  | answered r hr =>
      cases h with
      | completed r e hnot he => exact hnot hr
  | completed r e hr he => cases h
  | failed reason =>
      generalize Error.closing reason = failure at h
      cases h
  | cutOff r hr reason =>
      generalize Error.closing reason = failure at h
      cases h

/-- Of all that comes for a request, the next message is one that it waits for. -/
theorem Settled.fits_next {whole : List (Except Error Message)} (h : Settled whole)
    (hprogress : Progress awaits items) (hfront : items ++ [.ok m] <+: whole) :
    ∃ ends, fits awaits m = some ends := by
  obtain ⟨rest, rfl⟩ := hfront
  cases hprogress with
  | sent =>
      cases h with
      | answered r hr => exact ⟨_, rfl⟩
      | completed r e hr he => exact ⟨_, rfl⟩
      | cutOff r hr reason => exact ⟨_, rfl⟩
  | begun r hr =>
      cases h with
      | completed r e hr he =>
          refine ⟨true, ?_⟩
          simp [fits, RequestState.isTerminal, he]

theorem fits_request (awaits : Awaited) (r : Request) : fits awaits (.request r) = none := by
  cases awaits <;> rfl

/-! ## Where a message goes -/

/-- The request that the message answers or reports on. -/
def entryFor? (c : Correlator) (m : Message) : Option Outstanding :=
  match m.channelId with
  | .ok channel => c.entries.get? (channel.key, m.id)
  | .error _ => none

theorem entryFor?_eq {c : Correlator} {channel : ChannelId} (h : m.channelId = .ok channel) :
    c.entryFor? m = c.entries.get? (channel.key, m.id) := by
  rw [entryFor?, h]

/-- The entries after a message has been put into the slot of a request: the request is over, or it
waits for its completion. -/
def advance (entries : Table (String × Nat) Outstanding) (key : String × Nat) (o : Outstanding)
    (ends : Bool) : Table (String × Nat) Outstanding :=
  if ends then entries.erase key else entries.insert key { o with awaits := .completion }

theorem get?_advance (entries : Table (String × Nat) Outstanding) (key : String × Nat)
    (o : Outstanding) (ends : Bool) (other : String × Nat) :
    (advance entries key o ends).get? other =
      if other = key then (if ends then none else some { o with awaits := .completion })
      else entries.get? other := by
  cases ends with
  | true => exact Table.get?_erase entries key other
  | false => exact Table.get?_insert entries key other _

theorem nodup_keys_advance {entries : Table (String × Nat) Outstanding} (h : entries.keys.Nodup)
    (key : String × Nat) (o : Outstanding) (ends : Bool) :
    (advance entries key o ends).keys.Nodup := by
  cases ends with
  | true => exact Table.nodup_keys_erase h key
  | false => exact Table.nodup_keys_insert h key _

/-- What became of a message: it is handed back and nothing else happens; it is handed back, and its
request is struck out, because whoever sent it went away; or it is put into the slot of its request,
which is over or waits for its completion then. -/
inductive Handled (c : Correlator) (m : Message) : Correlator × Option Message → Prop
  | returned (h : ∀ o, c.entryFor? m = some o → fits o.awaits m = none) : Handled c m (c, some m)
  | struckOut {channel : ChannelId} {o : Outstanding} (hchannel : m.channelId = .ok channel)
      (hentry : c.entries.get? (channel.key, m.id) = some o)
      (hslot : c.slots.contains o.slot = false) :
      Handled c m ({ c with entries := c.entries.erase (channel.key, m.id) }, some m)
  | taken {channel : ChannelId} {o : Outstanding} {ends : Bool}
      (hchannel : m.channelId = .ok channel)
      (hentry : c.entries.get? (channel.key, m.id) = some o)
      (hslot : c.slots.contains o.slot = true) (hfits : fits o.awaits m = some ends) :
      Handled c m
        ({ c with
            entries := advance c.entries (channel.key, m.id) o ends
            slots := pushInto c.slots o.slot (.ok m) }, none)

theorem handle_cases (c : Correlator) (m : Message) : Handled c m (c.handle m) := by
  unfold handle
  cases hchannel : m.channelId with
  | error reason =>
      refine .returned ?_
      intro o ho
      rw [entryFor?, hchannel] at ho
      cases ho
  | ok channel =>
      simp only
      cases hentry : c.entries.get? (channel.key, m.id) with
      | none =>
          refine .returned ?_
          intro o ho
          rw [entryFor?_eq hchannel, hentry] at ho
          cases ho
      | some o =>
          simp only
          cases hslot : c.slots.get? o.slot with
          | none => exact .struckOut hchannel hentry (by rw [Table.contains, hslot]; rfl)
          | some line =>
              simp only
              cases hfits : fits o.awaits m with
              | none =>
                  refine .returned ?_
                  intro other hother
                  rw [entryFor?_eq hchannel, hentry] at hother
                  rw [← Option.some.inj hother, hfits]
              | some ends =>
                  exact .taken hchannel hentry (by rw [Table.contains, hslot]; rfl) hfits

/-- A message that the holder of its request waits for is put into the slot. -/
theorem handle_eq_of_fits {c : Correlator} {channel : ChannelId} {o : Outstanding} {ends : Bool}
    (hchannel : m.channelId = .ok channel) (hentry : c.entries.get? (channel.key, m.id) = some o)
    (hslot : c.slots.contains o.slot = true) (hfits : fits o.awaits m = some ends) :
    c.handle m =
      ({ c with
          entries := advance c.entries (channel.key, m.id) o ends
          slots := pushInto c.slots o.slot (.ok m) }, none) := by
  obtain ⟨line, hline⟩ := Option.isSome_iff_exists.mp hslot
  simp only [handle, hchannel, hentry, hline, hfits]
  rfl

/-- A message is put into exactly one slot, behind what waits there, or handed back with the slots as
they were; it is a request only in the latter case, and unless it had a request whose slot nobody
holds any more, nothing at all has changed then. -/
structure HandledOnce (c : Correlator) (m : Message) : Prop where
  outcome :
    ((c.handle m).2 = none ∧ ∃ slot, c.slots.contains slot = true ∧
      waiting (c.handle m).1.slots slot = waiting c.slots slot ++ [.ok m] ∧
      ∀ other, other ≠ slot → (c.handle m).1.slots.get? other = c.slots.get? other) ∨
    ((c.handle m).2 = some m ∧ (c.handle m).1.slots = c.slots)
  unchanged : (c.handle m).2 = some m →
    (∀ o, c.entryFor? m = some o → c.slots.contains o.slot = true) → (c.handle m).1 = c
  request : ∀ r, m = .request r → (c.handle m).2 = some m

theorem handledOnce (c : Correlator) (m : Message) : c.HandledOnce m := by
  have hcases := handle_cases c m
  generalize hresult : c.handle m = result at hcases
  cases hcases with
  | returned h =>
      constructor
      · exact .inr (by rw [hresult]; exact ⟨rfl, rfl⟩)
      · intro _ _
        rw [hresult]
      · intro _ _
        rw [hresult]
  | struckOut hchannel hentry hslot =>
      constructor
      · exact .inr (by rw [hresult]; exact ⟨rfl, rfl⟩)
      · intro _ hheld
        have hcontains := hheld _ ((entryFor?_eq hchannel).trans hentry)
        rw [hslot] at hcontains
        cases hcontains
      · intro _ _
        rw [hresult]
  | @taken channel o ends hchannel hentry hslot hfits =>
      constructor
      · refine .inl ?_
        rw [hresult]
        refine ⟨rfl, o.slot, hslot, waiting_pushInto_self hslot, ?_⟩
        intro other hother
        exact get?_pushInto_of_ne hother
      · intro hback
        rw [hresult] at hback
        cases hback
      · intro r hr
        rw [hr, fits_request] at hfits
        cases hfits

end MediaControl.Correlator
