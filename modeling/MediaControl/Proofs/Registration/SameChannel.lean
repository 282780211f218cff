import MediaControl.ChannelTable
import MediaControl.Proofs.Correlator.Handling
import MediaControl.Proofs.Header.Identity

/-!
# Two names of one channel (SPEC_FULL §3)

Two names are the same channel exactly if they are written alike.  An id may have an `@` in it, so that
the text of a channel may have several; but no resource type has one, so that the last `@` of the text
parts the key from the type.  Whoever looks a channel up goes by the key alone, and therefore treats
names of the same channel alike, whatever blanks are around their ids.

Main statements: `ChannelId.wire_eq_wire_iff` (the text tells channels apart), `handledAlike` (messages
that name the same channel), `ChannelId.treatedAlike` and `same_channel_iff_same_text`.
-/

set_option autoImplicit false

namespace MediaControl

/-! ## The last separator -/

/-- A list has only one last occurrence of an element. -/
theorem append_cons_inj_of_notMem_back {α : Type} {sep : α} {front front' back back' : List α}
    (hback : sep ∉ back) (hback' : sep ∉ back')
    (h : front ++ sep :: back = front' ++ sep :: back') : front = front' ∧ back = back' := by
  -- where one front is longer, the separator behind the other is in its own back
  rcases List.append_eq_append_iff.mp h with ⟨rest, hfront, hrest⟩ | ⟨rest, hfront, hrest⟩
  · cases rest with
    | nil => exact ⟨by rw [hfront, List.append_nil], (List.cons.inj hrest).2⟩
    | cons c rest =>
        rw [(List.cons.inj hrest).2] at hback
        exact absurd (List.mem_append_right rest List.mem_cons_self) hback
  · cases rest with
    | nil => exact ⟨by rw [hfront, List.append_nil], (List.cons.inj hrest).2.symm⟩
    | cons c rest =>
        rw [(List.cons.inj hrest).2] at hback'
        exact absurd (List.mem_append_right rest List.mem_cons_self) hback'

theorem Resource.at_notMem_wire (resource : Resource) : '@' ∉ resource.wire.toList := by
  cases resource <;> decide

theorem Resource.wire_injective {a b : Resource} (h : a.wire = b.wire) : a = b := by
  have hsame : Text.sameCaseless (Vocabulary.wire a) (Vocabulary.wire b) = true := by
    show Text.sameCaseless a.wire b.wire = true
    rw [h, Text.sameCaseless_refl]
  exact Vocabulary.eq_of_sameCaseless_wire hsame

namespace ChannelId

theorem toList_wire (id : ChannelId) :
    id.wire.toList = id.key.toList ++ '@' :: id.resource.wire.toList := by
  simp [wire]

/-- Channels are told apart by how they are written. -/
theorem wire_eq_wire_iff {a b : ChannelId} :
    a.wire = b.wire ↔ a.key = b.key ∧ a.resource = b.resource := by
  constructor
  · intro hwire
    have hchars := congrArg String.toList hwire
    rw [toList_wire, toList_wire] at hchars
    obtain ⟨hkey, hresource⟩ := append_cons_inj_of_notMem_back a.resource.at_notMem_wire
      b.resource.at_notMem_wire hchars
    exact ⟨String.toList_inj.mp hkey, Resource.wire_injective (String.toList_inj.mp hresource)⟩
  · rintro ⟨hkey, hresource⟩
    rw [wire, wire, hkey, hresource]

theorem beq_iff_wire_eq {a b : ChannelId} : (a == b) = true ↔ a.wire = b.wire :=
  beq_iff.trans wire_eq_wire_iff.symm

theorem equivalence_beq : Equivalence fun a b : ChannelId => (a == b) = true where
  refl _ := beq_iff_wire_eq.mpr rfl
  symm h := beq_iff_wire_eq.mpr (beq_iff_wire_eq.mp h).symm
  trans h h' := beq_iff_wire_eq.mpr ((beq_iff_wire_eq.mp h).trans (beq_iff_wire_eq.mp h'))

/-- The text is the id of the channel but for the blanks at its ends; the id itself and the key are two
such texts. -/
def GoesBy (channel : ChannelId) (text : String) : Prop := Text.trim text = channel.key

end ChannelId

/-! ## Messages -/

namespace Correlator

theorem fits_withHeaders (awaits : Awaited) (m : Message) (hs : Headers) :
    fits awaits (m.withHeaders hs) = fits awaits m := by
  cases m <;> cases awaits <;> rfl

/-- The same becomes of both messages: both are handed back, with the same effect, or each is put into
the same slot, for the same request. -/
inductive HandledAlike (c : Correlator) (m n : Message) : Prop
  | returned (after : Correlator) (left : c.handle m = (after, some m))
      (right : c.handle n = (after, some n))
  | taken (entries : Table (String × Nat) Outstanding) (slot : Nat)
      (left : c.handle m = ({ c with entries, slots := pushInto c.slots slot (.ok m) }, none))
      (right : c.handle n = ({ c with entries, slots := pushInto c.slots slot (.ok n) }, none))

/-- Answers with the same id that are waited for alike are handled alike if the channels that they name
have the same key. -/
theorem handledAlike (c : Correlator) {m n : Message} {a b : ChannelId} (hm : m.channelId = .ok a)
    (hn : n.channelId = .ok b) (hkey : a.key = b.key) (hid : m.id = n.id)
    (hfits : ∀ awaits, fits awaits m = fits awaits n) : HandledAlike c m n := by
  cases hentry : c.entries.get? (b.key, n.id) with
  | none =>
      refine .returned c ?_ ?_
      · simp only [handle, hm, hkey, hid, hentry]
      · simp only [handle, hn, hentry]
  | some o =>
      cases hslot : c.slots.get? o.slot with
      | none =>
          refine .returned { c with entries := c.entries.erase (b.key, n.id) } ?_ ?_
          · simp only [handle, hm, hkey, hid, hentry, hslot]
          · simp only [handle, hn, hentry, hslot]
      | some line =>
          cases hends : fits o.awaits n with
          | none =>
              refine .returned c ?_ ?_
              · simp only [handle, hm, hkey, hid, hentry, hslot, hfits, hends]
              · simp only [handle, hn, hentry, hslot, hends]
          | some ends =>
              refine .taken (advance c.entries (b.key, n.id) o ends) o.slot ?_ ?_
              · rw [← hkey, ← hid] at hentry ⊢
                exact handle_eq_of_fits hm hentry (by rw [Table.contains, hslot]; rfl)
                  ((hfits o.awaits).trans hends)
              · exact handle_eq_of_fits hn hentry (by rw [Table.contains, hslot]; rfl) hends

end Correlator

/-! ## Tables and requests -/

theorem Message.id_withHeaders (m : Message) (hs : Headers) : (m.withHeaders hs).id = m.id := by
  cases m <;> rfl

namespace ChannelTable

variable {σ : Type}

theorem route_eq_ok_iff {t : ChannelTable σ} {m : Message} {channel : ChannelId} {taker : σ}
    (hm : m.channelId = .ok channel) :
    route t m = .ok taker ↔ Table.get? t channel.key = some taker := by
  simp only [route, hm, lookup, ChannelId.trim_key]
  cases Table.get? t channel.key with
  | none => simp
  | some other => simp

end ChannelTable

namespace ChannelId

/-- Nothing that is done under the name of a channel depends on which of two names it is. -/
structure TreatedAlike (a b : ChannelId) : Prop where
  key : a.key = b.key
  register {σ : Type} (t : ChannelTable σ) (taker : σ) :
    ChannelTable.register t a taker = ChannelTable.register t b taker
  found {σ : Type} (t : ChannelTable σ) (taker : σ) {text : String} : b.GoesBy text →
    ChannelTable.lookup (ChannelTable.register t a taker) text = some taker
  lookup {σ : Type} (t : ChannelTable σ) {text other : String} : a.GoesBy text → b.GoesBy other →
    ChannelTable.lookup t text = ChannelTable.lookup t other ∧
    ChannelTable.unregister t text = ChannelTable.unregister t other
  route {σ : Type} (t : ChannelTable σ) (taker : σ) {m n : Message} : m.channelId = .ok a →
    n.channelId = .ok b → (ChannelTable.route t m = .ok taker ↔ ChannelTable.route t n = .ok taker)
  requests (c : Correlator) (id : Nat) (reason : Error) {text other : String} :
    a.GoesBy text → b.GoesBy other →
    c.register text id = c.register other id ∧ c.forget text id = c.forget other id ∧
    c.failChannel text reason = c.failChannel other reason ∧ c.pendingOn text = c.pendingOn other
  handle (c : Correlator) {m : Message} {hs : Headers} : m.channelId = .ok a →
    (m.withHeaders hs).channelId = .ok b → c.HandledAlike m (m.withHeaders hs)

theorem treatedAlike {a b : ChannelId} (hkey : a.key = b.key) : TreatedAlike a b := by
  have hsame : ∀ {text other : String}, a.GoesBy text → b.GoesBy other →
      Text.trim text = Text.trim other := fun htext hother => htext.trans (hkey.trans hother.symm)
  constructor
  case key => exact hkey
  case register =>
    intro σ t taker
    rw [ChannelTable.register, ChannelTable.register, hkey]
  case found =>
    intro σ t taker text htext
    rw [ChannelTable.lookup, ChannelTable.register, Table.get?_insert, if_pos (htext.trans hkey.symm)]
  case lookup =>
    intro σ t text other htext hother
    rw [ChannelTable.lookup, ChannelTable.lookup, ChannelTable.unregister, ChannelTable.unregister,
      hsame htext hother]
    exact ⟨rfl, rfl⟩
  case route =>
    intro σ t taker m n hm hn
    rw [ChannelTable.route_eq_ok_iff hm, ChannelTable.route_eq_ok_iff hn, hkey]
  case requests =>
    intro c id reason text other htext hother
    rw [Correlator.register, Correlator.register, Correlator.forget, Correlator.forget,
      Correlator.failChannel, Correlator.failChannel, Correlator.pendingOn, Correlator.pendingOn,
      hsame htext hother]
    exact ⟨rfl, rfl, rfl, rfl⟩
  case handle =>
    intro c m hs hm hn
    exact c.handledAlike hm hn hkey (m.id_withHeaders hs).symm fun awaits =>
      (Correlator.fits_withHeaders awaits m hs).symm

/-- Two names are the same channel exactly if they are written alike, whatever is in their ids; this is
an equivalence, and names of the same channel are treated alike wherever messages are handed out. -/
theorem same_channel_iff_same_text :
    (∀ a b : ChannelId, (a == b) = true ↔ a.wire = b.wire) ∧
    (Equivalence fun a b : ChannelId => (a == b) = true) ∧
    ∀ a b : ChannelId, (a == b) = true → TreatedAlike a b :=
  ⟨fun _ _ => beq_iff_wire_eq, equivalence_beq, fun _ _ h => treatedAlike (beq_iff.mp h).1⟩

/-- Blanks around an id with an `@` in it do not matter. -/
example : ((⟨" a@b", .recorder, by decide⟩ : ChannelId) ==
    ⟨"a@b\t", .recorder, by decide⟩) = true := by
  decide

end ChannelId

end MediaControl
