import MediaControl.Proofs.Client.Standing
import MediaControl.Proofs.Table

/-!
# Channels in the table

The table of a session holds the channels that are open, each under its key, and each of them has
given out the ids below its next one.  Opening a channel, closing it and taking an id from it keep
this so, and an id that was given out stays given out until the channel closes.

Main statements: `TableHoldsOpen.openChannel`, `TableHoldsOpen.closeChannel`, `TableHoldsOpen.takeId`,
and `TableHoldsOpen.not_gaveOut_nextId` (the next id is fresh).
-/

set_option autoImplicit false

namespace MediaControl.Session

/-- The table holds the open channels, under their keys. -/
def TableHoldsOpen (s : Session) : Prop :=
  ∀ key number, s.table.get? key = some number ↔
    ∃ c, s.standing? number = some c ∧ c.isClosed = false ∧ c.id.key = key

/-- An open channel with the key gave out the id. -/
def GaveOut (s : Session) (key : String × Nat) : Prop :=
  ∃ number c, s.table.get? key.1 = some number ∧ s.standing? number = some c ∧ key.2 < c.nextId

variable {s s' : Session} {key : String × Nat} {number : Nat} {c : ClientChannel}

theorem KeepsChannels.tableHoldsOpen (h : KeepsChannels s s') (ht : s.TableHoldsOpen) :
    s'.TableHoldsOpen := by
  intro key number
  rw [h.table, h.standing]
  exact ht key number

theorem KeepsChannels.gaveOut (h : KeepsChannels s s') (hg : s.GaveOut key) : s'.GaveOut key := by
  obtain ⟨number, c, hget, hc, hid⟩ := hg
  exact ⟨number, c, h.table ▸ hget, (h.standing number).trans hc, hid⟩

theorem TableHoldsOpen.get?_of_channel? (ht : s.TableHoldsOpen) (hc : s.channel? number = some c)
    (hopen : c.isClosed = false) : s.table.get? c.id.key = some number :=
  (ht c.id.key number).mpr ⟨c.standing, standing?_of_channel? hc, hopen, rfl⟩

theorem TableHoldsOpen.trim_key (ht : s.TableHoldsOpen) {key : String}
    (hget : s.table.get? key = some number) : Text.trim key = key := by
  obtain ⟨c, -, -, rfl⟩ := (ht key number).mp hget
  exact c.id.trim_key

theorem GaveOut.trim_key (hg : s.GaveOut key) (ht : s.TableHoldsOpen) :
    Text.trim key.1 = key.1 := by
  obtain ⟨number, -, hget, -, -⟩ := hg
  exact ht.trim_key hget

theorem GaveOut.mem_keys (hg : s.GaveOut key) : key.1 ∈ s.table.keys := by
  obtain ⟨number, -, hget, -, -⟩ := hg
  exact Table.mem_keys_of_get? hget

/-! ## Opening -/

theorem openChannel_eq_ok {s s' : Session} {id : ChannelId} {number : Nat}
    (h : s.openChannel id = .ok (number, s')) :
    s.connection.closed = false ∧ s.table.get? id.key = none ∧ number = s.channels.length ∧
      s' = { s with
        table := s.table.insert id.key s.channels.length, channels := s.channels ++ [{ id }] } := by
  unfold openChannel at h
  split at h
  · cases h
  · rename_i hopen
    split at h
    · cases h
    · rename_i hfree
      cases h
      rw [ChannelTable.lookup, ChannelId.trim_key] at hfree
      exact ⟨by simpa using hopen, by simpa using hfree, rfl, rfl⟩

theorem openNamed_eq_ok {s s' : Session} {text : String} {number : Nat}
    (h : s.openNamed text = .ok (number, s')) : ∃ id, s.openChannel id = .ok (number, s') := by
  unfold openNamed at h
  split at h
  · exact ⟨_, h⟩
  · cases h

theorem standing?_append (s : Session) (id : ChannelId) (number : Nat) :
    standing? { s with channels := s.channels ++ [{ id }] } number =
      if number = s.channels.length then some ⟨id, false, 1⟩ else s.standing? number := by
  simp only [standing?, channel?]
  split
  · rename_i hlast
    rw [hlast, List.getElem?_concat_length]
    rfl
  · rename_i hother
    rcases Nat.lt_or_gt_of_ne hother with hlt | hgt
    · rw [List.getElem?_append_left hlt]
    · rw [List.getElem?_eq_none (by simp; omega), List.getElem?_eq_none (Nat.le_of_lt hgt)]

theorem ne_length_of_standing? {c : Standing} (h : s.standing? number = some c) :
    number ≠ s.channels.length := by
  rintro rfl
  rw [standing?, channel?, List.getElem?_eq_none (Nat.le_refl _)] at h
  cases h

section openChannel

variable {id : ChannelId}

theorem TableHoldsOpen.openChannel (ht : s.TableHoldsOpen)
    (hopened : s.openChannel id = .ok (number, s')) : s'.TableHoldsOpen := by
  obtain ⟨-, hfree, -, rfl⟩ := openChannel_eq_ok hopened
  intro key other
  have hstanding : standing? { s with
      table := s.table.insert id.key s.channels.length
      channels := s.channels ++ [{ id }] } other = _ := s.standing?_append id other
  rw [hstanding, Table.get?_insert]
  by_cases hlast : other = s.channels.length
  · rw [if_pos hlast]
    constructor
    · intro hget
      by_cases hkey : key = id.key
      · exact ⟨_, rfl, rfl, hkey.symm⟩
      · rw [if_neg hkey] at hget
        obtain ⟨c, hc, -, -⟩ := (ht key other).mp hget
        exact absurd hlast (ne_length_of_standing? hc)
    · rintro ⟨c, hc, -, hkey⟩
      cases hc
      rw [if_pos hkey.symm, hlast]
  · rw [if_neg hlast, ← ht key other]
    by_cases hkey : key = id.key
    · rw [if_pos hkey, hkey, hfree]
      constructor
      · intro hget
        exact absurd (Option.some.inj hget).symm hlast
      · intro hget
        cases hget
    · rw [if_neg hkey]

theorem GaveOut.openChannel (hg : s.GaveOut key) (hopened : s.openChannel id = .ok (number, s')) :
    s'.GaveOut key := by
  obtain ⟨-, hfree, -, rfl⟩ := openChannel_eq_ok hopened
  obtain ⟨other, c, hget, hc, hid⟩ := hg
  have hkey : key.1 ≠ id.key := by
    intro heq
    rw [heq, hfree] at hget
    cases hget
  refine ⟨other, c, ?_, ?_, hid⟩
  · rw [Table.get?_insert, if_neg hkey]
    exact hget
  · exact (s.standing?_append id other).trans ((if_neg (ne_length_of_standing? hc)).trans hc)

end openChannel

/-! ## Closing -/

/-- What closing an open channel does: it takes the channel out of the table and ends its requests. -/
structure ClosedBy (s : Session) (number : Nat) (c : ClientChannel) (s' : Session) : Prop where
  channel : s.channel? number = some c
  isOpen : c.isClosed = false
  table : s'.table = s.table.erase c.id.key
  connection : s'.connection = s.connection
  self : s'.standing? number = some { c.standing with isClosed := true }
  others : ∀ other, number ≠ other → s'.standing? other = s.standing? other
  correlator : ∃ reason, s'.correlator = s.correlator.failChannel c.id.key reason

/-- Closing a channel that is closed, or was never opened, changes nothing. -/
theorem closeChannel_cases (s : Session) (number : Nat) :
    s.closeChannel number = s ∨ ∃ c, ClosedBy s number c (s.closeChannel number) := by
  unfold closeChannel
  cases hc : s.channel? number with
  | none => exact .inl rfl
  | some c =>
      simp only
      cases hclosed : c.isClosed with
      | true => exact .inl rfl
      | false =>
          rw [if_neg Bool.false_ne_true]
          refine .inr ⟨c, hc, hclosed, ?_, rfl, ?_, ?_, _, rfl⟩
          · show s.table.erase (Text.trim c.id.key) = _
            rw [ChannelId.trim_key]
          · rw [(keepsChannels_endChannel _ number _ _).standing]
            exact s.standing?_modify_self hc _
          · intro other hother
            rw [(keepsChannels_endChannel _ number _ _).standing]
            exact s.standing?_modify_of_ne hother _

theorem ClosedBy.ne_of_get? (h : ClosedBy s number c s') (ht : s.TableHoldsOpen) {key : String}
    {other : Nat} (hget : s.table.get? key = some other) (hkey : key ≠ c.id.key) :
    number ≠ other := by
  rintro rfl
  obtain ⟨c', hc', -, rfl⟩ := (ht key number).mp hget
  rw [standing?_of_channel? h.channel] at hc'
  cases hc'
  exact hkey rfl

theorem ClosedBy.tableHoldsOpen (h : ClosedBy s number c s') (ht : s.TableHoldsOpen) :
    s'.TableHoldsOpen := by
  intro key other
  rw [h.table, Table.get?_erase]
  by_cases hnumber : number = other
  · subst hnumber
    rw [h.self]
    constructor
    · intro hget
      by_cases hkey : key = c.id.key
      · rw [if_pos hkey] at hget
        cases hget
      · rw [if_neg hkey] at hget
        exact absurd rfl (h.ne_of_get? ht hget hkey)
    · rintro ⟨c', hc', hopen, -⟩
      cases hc'
      cases hopen
  · rw [h.others other hnumber, ← ht key other]
    by_cases hkey : key = c.id.key
    · rw [if_pos hkey, hkey, ht.get?_of_channel? h.channel h.isOpen]
      constructor
      · intro hget
        cases hget
      · intro hget
        exact absurd (Option.some.inj hget) hnumber
    · rw [if_neg hkey]

theorem ClosedBy.gaveOut (h : ClosedBy s number c s') (ht : s.TableHoldsOpen) (hg : s.GaveOut key)
    (hkey : key.1 ≠ c.id.key) : s'.GaveOut key := by
  obtain ⟨other, c', hget, hc', hid⟩ := hg
  refine ⟨other, c', ?_, (h.others other (h.ne_of_get? ht hget hkey)).trans hc', hid⟩
  rw [h.table, Table.get?_erase, if_neg hkey, hget]

/-! ## Taking an id -/

section takeId

variable (hc : s.channel? number = some c)
  (hsame : KeepsChannels (s.modify number fun c => { c with nextId := c.nextId + 1 }) s')

include hc hsame

theorem standing?_takeId :
    s'.standing? number = some { c.standing with nextId := c.nextId + 1 } := by
  rw [hsame.standing, standing?_modify_self hc]
  rfl

theorem TableHoldsOpen.takeId (ht : s.TableHoldsOpen) : s'.TableHoldsOpen := by
  intro key other
  rw [show s'.table = s.table from hsame.table, ht key other]
  by_cases hnumber : number = other
  · subst hnumber
    rw [standing?_takeId hc hsame, standing?_of_channel? hc]
    simp
  · rw [hsame.standing, standing?_modify_of_ne s hnumber]

/-- An id that was given out stays given out. -/
theorem GaveOut.takeId (hg : s.GaveOut key) : s'.GaveOut key := by
  obtain ⟨other, c', hget, hc', hid⟩ := hg
  have htable : s'.table = s.table := hsame.table
  by_cases hnumber : number = other
  · subst hnumber
    rw [standing?_of_channel? hc] at hc'
    cases hc'
    exact ⟨number, _, htable ▸ hget, standing?_takeId hc hsame, Nat.lt_succ_of_lt hid⟩
  · refine ⟨other, c', htable ▸ hget, ?_, hid⟩
    rw [hsame.standing, standing?_modify_of_ne s hnumber, hc']

theorem TableHoldsOpen.gaveOut_takeId (ht : s.TableHoldsOpen) (hopen : c.isClosed = false) :
    s'.GaveOut (c.id.key, c.nextId) := by
  have htable : s'.table = s.table := hsame.table
  refine ⟨number, _, ?_, standing?_takeId hc hsame, Nat.lt_succ_self _⟩
  rw [htable]
  exact ht.get?_of_channel? hc hopen

end takeId

/-- The next id of an open channel has not been given out. -/
theorem TableHoldsOpen.not_gaveOut_nextId (ht : s.TableHoldsOpen)
    (hc : s.channel? number = some c) (hopen : c.isClosed = false) :
    ¬ s.GaveOut (c.id.key, c.nextId) := by
  rintro ⟨other, c', hget, hc', hid⟩
  rw [ht.get?_of_channel? hc hopen] at hget
  cases hget
  rw [standing?_of_channel? hc] at hc'
  cases hc'
  exact Nat.lt_irrefl _ hid

end MediaControl.Session
