import MediaControl.Proofs.Correlator.Runs

/-!
# Requests that are accounted for

A request is accounted for while its entry is there, and once its slot has been given all that comes
for it.  Nothing but striking out its entry, or entering another request in its place, leaves a
request between the two.

Main statements: `Accounted.handle` and `Accounted.failWhere`, and `HasEntry.received_failChannels` (of
all the channels that end, a request is told once).
-/

set_option autoImplicit false

namespace MediaControl.Correlator.Ledger

/-- The request with the key has its entry under its slot. -/
def HasEntry (l : Ledger) (key : String × Nat) (slot : Nat) : Prop :=
  ∃ o, l.correlator.entries.get? key = some o ∧ o.slot = slot

/-- The request with the key has its entry, or its slot has been given all that comes for it. -/
def Accounted (l : Ledger) (key : String × Nat) (slot : Nat) : Prop :=
  l.HasEntry key slot ∨ Settled (l.received slot)

variable {l : Ledger} {key : String × Nat} {slot : Nat}

theorem Accounted.of_settled {l' : Ledger} (hf : Follows l l') (h : l.Sound)
    (hsettled : Settled (l.received slot)) : l'.Accounted key slot := by
  refine .inr ?_
  rw [hf.received_of_settled h hsettled]
  exact hsettled

/-- A message leaves the request of a slot that is held accounted for: it is not for that request, or
it is put into the slot, and the entry stays unless the message ends the matter. -/
theorem Accounted.handle (hacc : l.Accounted key slot) (h : l.Sound)
    (hheld : l.correlator.slots.contains slot = true) (m : Message) :
    (l.step (.handle m)).Accounted key slot := by
  have hf := h.follows_handle m
  rcases hacc with ⟨o, ho, rfl⟩ | hsettled
  · have hcases := handle_cases l.correlator m
    rw [step] at hf ⊢
    generalize l.correlator.handle m = result at hcases hf ⊢
    cases hcases with
    | returned => exact .inl ⟨o, ho, rfl⟩
    | @struckOut channel o₀ hchannel hentry hslot =>
        refine .inl ⟨o, ?_, rfl⟩
        rw [Table.get?_erase]
        refine (if_neg ?_).trans ho
        rintro rfl
        rw [hentry] at ho
        rw [Option.some.inj ho, hheld] at hslot
        cases hslot
    | @taken channel o₀ ends hchannel hentry hslot hfits =>
        by_cases hkey : key = (channel.key, m.id)
        · rw [hkey, hentry] at ho
          obtain rfl := Option.some.inj ho
          cases ends with
          | true =>
              refine .inr ?_
              rw [(l.received_push (.ok m) hslot _).1]
              exact (h.entry _ _ hentry).2.finish hfits
          | false => exact .inl ⟨_, (get?_advance _ _ _ _ _).trans (if_pos hkey), rfl⟩
        · exact .inl ⟨o, (get?_advance _ _ _ _ _).trans ((if_neg hkey).trans ho), rfl⟩
  · exact .of_settled hf h hsettled

/-- A request that is entered where there is no other takes nobody's place. -/
theorem Accounted.register (hacc : l.Accounted key slot) (h : l.Sound) {channel : String} {id : Nat}
    (hfree : l.correlator.entries.get? (Text.trim channel, id) = none) :
    (l.step (.register channel id)).Accounted key slot := by
  rcases hacc with ⟨o, ho, hslot⟩ | hsettled
  · refine .inl ⟨o, ?_, hslot⟩
    have hkey : key ≠ (Text.trim channel, id) := by
      rintro rfl
      cases hfree.symm.trans ho
    rw [step, Correlator.register, Table.get?_insert, if_neg hkey]
    exact ho
  · refine .inr ?_
    rw [h.received_register]
    exact hsettled

/-- Nor does it strike out another when it is struck out again. -/
theorem Accounted.forget_register (hacc : l.Accounted key slot) (h : l.Sound) {channel : String}
    {id : Nat} (hfree : l.correlator.entries.get? (Text.trim channel, id) = none) :
    ((l.step (.register channel id)).step (.forget channel id)).Accounted key slot := by
  rcases hacc with ⟨o, ho, hslot⟩ | hsettled
  · refine .inl ⟨o, ?_, hslot⟩
    have hkey : key ≠ (Text.trim channel, id) := by
      rintro rfl
      cases hfree.symm.trans ho
    simp only [step, Correlator.forget, Correlator.register, Table.get?_erase, Table.get?_insert,
      if_neg hkey]
    exact ho
  · refine .inr ?_
    have hreceived := h.received_register channel id slot
    exact hreceived.symm ▸ hsettled

theorem Accounted.take (hacc : l.Accounted key slot) (other : Nat) :
    (l.step (.take other)).Accounted key slot := by
  rcases hacc with ⟨o, ho, hslot⟩ | hsettled
  · refine .inl ⟨o, ?_, hslot⟩
    simp only [step]
    cases htake : l.correlator.take? other with
    | none => exact ho
    | some taken =>
        rcases taken with ⟨item, c⟩
        obtain ⟨items, _, rfl⟩ := take?_eq_some htake
        exact ho
  · refine .inr ?_
    rw [received_take]
    exact hsettled

theorem Accounted.drop (hacc : l.Accounted key slot) (other : Nat) :
    (l.step (.drop other)).Accounted key slot := by
  rcases hacc with hentry | hsettled
  · exact .inl hentry
  · refine .inr ?_
    rw [received_drop]
    exact hsettled

section failWhere

variable (isFailing : String → Bool) (reason : Error)

theorem HasEntry.failWhere (hentry : l.HasEntry key slot) (hkept : isFailing key.1 = false) :
    (l.failWhere isFailing reason).HasEntry key slot := by
  obtain ⟨o, ho, hslot⟩ := hentry
  refine ⟨o, ?_, hslot⟩
  rw [Ledger.failWhere, get?_entries_failWhere, hkept]
  exact ho

/-- The failure comes for a request that is to end, if its slot is held. -/
theorem HasEntry.received_failWhere (hentry : l.HasEntry key slot) (h : l.Sound)
    (hheld : l.correlator.slots.contains slot = true) (hfailing : isFailing key.1 = true) :
    Settled ((l.failWhere isFailing reason).received slot) ∧
      (l.failWhere isFailing reason).received slot =
        l.received slot ++ [.error (.closing reason)] := by
  obtain ⟨o, ho, rfl⟩ := hentry
  have hmore := h.received_failWhere_of_failing ho hfailing hheld reason
  refine ⟨?_, hmore⟩
  rw [hmore]
  exact (h.entry key o ho).2.fail reason

theorem HasEntry.received_failWhere_of_not (hentry : l.HasEntry key slot) (h : l.Sound)
    (hkept : isFailing key.1 = false) :
    (l.failWhere isFailing reason).received slot = l.received slot := by
  obtain ⟨o, ho, rfl⟩ := hentry
  refine h.received_failWhere_of_not ?_ reason
  intro other o' ho' hfailing _ hslot
  rw [h.distinct.slots other key o' o ho' ho hslot, hkept] at hfailing
  cases hfailing

theorem Accounted.failWhere (hacc : l.Accounted key slot) (h : l.Sound)
    (hheld : l.correlator.slots.contains slot = true) :
    (l.failWhere isFailing reason).Accounted key slot := by
  rcases hacc with hentry | hsettled
  · cases hfailing : isFailing key.1 with
    | true => exact .inr (hentry.received_failWhere isFailing reason h hheld hfailing).1
    | false => exact .inl (hentry.failWhere isFailing reason hfailing)
  · exact .of_settled (h.follows_failWhere isFailing reason) h hsettled

end failWhere

/-! ## Operations that lose nobody -/

/-- What one or more operations do that neither give out a slot nor strike out an entry whose slot is
held: every request stays accounted for as long as its slot is held, and where nobody waits, nothing
comes. -/
structure Settles (l l' : Ledger) : Prop where
  sound : l'.Sound
  nextSlot : l'.correlator.nextSlot = l.correlator.nextSlot
  contains : ∀ slot, l'.correlator.slots.contains slot = true →
    l.correlator.slots.contains slot = true
  entry : ∀ key o, l'.correlator.entries.get? key = some o →
    ∃ o₀, l.correlator.entries.get? key = some o₀
  received : (∀ key, l.correlator.entries.get? key = none) →
    ∀ slot, l'.received slot = l.received slot
  accounted : ∀ key slot, l'.correlator.slots.contains slot = true → l.Accounted key slot →
    l'.Accounted key slot

theorem Settles.refl (h : l.Sound) : Settles l l where
  sound := h
  nextSlot := rfl
  contains := fun _ hheld => hheld
  entry := fun _ o ho => ⟨o, ho⟩
  received := fun _ _ => rfl
  accounted := fun _ _ _ hacc => hacc

theorem Settles.trans {l₁ l₂ l₃ : Ledger} (h₁ : Settles l₁ l₂) (h₂ : Settles l₂ l₃) :
    Settles l₁ l₃ where
  sound := h₂.sound
  nextSlot := h₂.nextSlot.trans h₁.nextSlot
  contains := fun slot hheld => h₁.contains slot (h₂.contains slot hheld)
  entry := by
    intro key o ho
    obtain ⟨o₂, ho₂⟩ := h₂.entry key o ho
    exact h₁.entry key o₂ ho₂
  received := by
    intro hnone slot
    have hnone₂ : ∀ key, l₂.correlator.entries.get? key = none := by
      intro key
      cases hget : l₂.correlator.entries.get? key with
      | none => rfl
      | some o =>
          obtain ⟨o₀, ho₀⟩ := h₁.entry key o hget
          rw [hnone key] at ho₀
          cases ho₀
    rw [h₂.received hnone₂, h₁.received hnone]
  accounted := by
    intro key slot hheld hacc
    exact h₂.accounted key slot hheld (h₁.accounted key slot (h₂.contains slot hheld) hacc)

theorem Settles.of_follows {l' : Ledger} (hf : Follows l l') (h : l.Sound)
    (hacc : ∀ key slot, l.correlator.slots.contains slot = true → l.Accounted key slot →
      l'.Accounted key slot) : Settles l l' := by
  have hcontains : ∀ slot, l'.correlator.slots.contains slot = true →
      l.correlator.slots.contains slot = true := by
    intro slot hheld
    by_contra hfree
    have hnone : l.correlator.slots.get? slot = none := by
      simpa [Table.contains] using hfree
    rw [Table.contains, (hf.unheld slot hnone).2] at hheld
    cases hheld
  refine ⟨h.of_follows hf, hf.nextSlot, hcontains, ?_, ?_, ?_⟩
  · intro key o ho
    obtain ⟨⟨o₀, ho₀, -⟩, -⟩ := hf.entry key o ho
    exact ⟨o₀, ho₀⟩
  · intro hnone slot
    cases hf.given slot with
    | nothing hsame => exact hsame
    | @item key o item hget _ _ _ _ =>
        rw [hnone key] at hget
        cases hget
  · intro key slot hheld
    exact hacc key slot (hcontains slot hheld)

theorem Sound.settles_handle (h : l.Sound) (m : Message) : Settles l (l.step (.handle m)) :=
  .of_follows (h.follows_handle m) h fun _ _ hheld hacc => hacc.handle h hheld m

theorem Sound.settles_take (h : l.Sound) (slot : Nat) : Settles l (l.step (.take slot)) :=
  .of_follows (h.follows_take slot) h fun _ _ _ hacc => hacc.take slot

theorem Sound.settles_drop (h : l.Sound) (slot : Nat) : Settles l (l.step (.drop slot)) :=
  .of_follows (h.follows_drop slot) h fun _ _ _ hacc => hacc.drop slot

theorem Sound.settles_failWhere (h : l.Sound) (isFailing : String → Bool) (reason : Error) :
    Settles l (l.failWhere isFailing reason) :=
  .of_follows (h.follows_failWhere isFailing reason) h fun _ _ hheld hacc =>
    hacc.failWhere isFailing reason h hheld

/-! ## One failure for all channels -/

/-- The channels end one after the other, for one reason. -/
def failChannels (l : Ledger) (channels : List String) (reason : Error) : Ledger :=
  l.run (channels.map fun channel => .failChannel channel reason)

theorem failChannels_cons (l : Ledger) (channel : String) (channels : List String)
    (reason : Error) :
    l.failChannels (channel :: channels) reason =
      (l.failWhere (fun key => key = Text.trim channel) reason).failChannels channels reason := rfl

theorem Sound.settles_failChannels (h : l.Sound) (channels : List String) (reason : Error) :
    Settles l (l.failChannels channels reason) := by
  induction channels generalizing l with
  | nil => exact .refl h
  | cons channel channels ih =>
      have hfirst := h.settles_failWhere (fun key => key = Text.trim channel) reason
      exact hfirst.trans (ih hfirst.sound)

/-- The entries that are left are those of other channels. -/
theorem get?_entries_failChannels {channels : List String} {reason : Error} {o : Outstanding}
    (ho : (l.failChannels channels reason).correlator.entries.get? key = some o) :
    l.correlator.entries.get? key = some o ∧ ∀ channel ∈ channels, key.1 ≠ Text.trim channel := by
  induction channels generalizing l with
  | nil => exact ⟨ho, fun _ hmem => by cases hmem⟩
  | cons channel channels ih =>
      rw [failChannels_cons] at ho
      obtain ⟨hfirst, hothers⟩ := ih ho
      rw [Ledger.failWhere, get?_entries_failWhere] at hfirst
      by_cases hkey : key.1 = Text.trim channel
      · simp [hkey] at hfirst
      · simp only [hkey, decide_false, Bool.false_eq_true, if_false] at hfirst
        refine ⟨hfirst, ?_⟩
        intro other hother
        rcases List.mem_cons.mp hother with rfl | hother
        · exact hkey
        · exact hothers other hother

theorem Sound.failChannels_of_settled (h : l.Sound) (channels : List String) (reason : Error)
    (hsettled : Settled (l.received slot)) :
    (l.failChannels channels reason).received slot = l.received slot := by
  induction channels generalizing l with
  | nil => rfl
  | cons channel channels ih =>
      have hf := h.follows_failWhere (fun key => key = Text.trim channel) reason
      have hsame := hf.received_of_settled h hsettled
      rw [failChannels_cons, ih (h.of_follows hf) (hsame ▸ hsettled), hsame]

/-- When channels end one after the other, a request on one of them whose slot is held is given one
failure in all. -/
theorem HasEntry.received_failChannels (hentry : l.HasEntry key slot) (h : l.Sound)
    (hheld : l.correlator.slots.contains slot = true) {channels : List String} (reason : Error)
    (hends : ∃ channel ∈ channels, key.1 = Text.trim channel) :
    (l.failChannels channels reason).received slot =
      l.received slot ++ [.error (.closing reason)] := by
  induction channels generalizing l with
  | nil =>
      obtain ⟨channel, hmem, -⟩ := hends
      cases hmem
  | cons channel channels ih =>
      have hf := h.follows_failWhere (fun other => other = Text.trim channel) reason
      rw [failChannels_cons]
      by_cases hkey : key.1 = Text.trim channel
      · obtain ⟨hsettled, hmore⟩ :=
          hentry.received_failWhere (fun other => other = Text.trim channel) reason h hheld
            (decide_eq_true hkey)
        rw [(h.of_follows hf).failChannels_of_settled _ _ hsettled, hmore]
      · have hkept := decide_eq_false hkey
        rw [ih (hentry.failWhere _ reason hkept) (h.of_follows hf),
          hentry.received_failWhere_of_not _ reason h hkept]
        · rw [h.contains_failWhere]
          exact hheld
        · obtain ⟨other, hother, hotherKey⟩ := hends
          rcases List.mem_cons.mp hother with rfl | hother
          · exact absurd hotherKey hkey
          · exact ⟨other, hother, hotherKey⟩

end MediaControl.Correlator.Ledger
