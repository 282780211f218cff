import MediaControl.Header.ChannelId
import MediaControl.Proofs.Text.Tokens

/-!
# Names of channels as text

What identifies a channel has no blanks at its ends, and is read back from the text of the channel
unless there is an `@` in its key.  A channel that was read is no larger than its text.

Main statements: `parse_eq_ok_iff` (which texts name a channel), `parse_wire`, `parse_wire_of_at` and
`size_wire_le_of_parse`.
-/

set_option autoImplicit false

namespace MediaControl

/-- The forms of the resource types on the wire are told apart, and are words. -/
instance : LawfulVocabulary Resource where
  mem_all term := by cases term <;> decide
  nodup_wire := by decide +kernel
  isWord_of_mem := by decide +kernel

namespace ChannelId

@[simp] theorem trim_key (id : ChannelId) : Text.trim id.key = id.key := Text.trim_trim id.id

/-- The channel as its text says it: the id without the blanks at its ends. -/
def plain (id : ChannelId) : ChannelId where
  id := id.key
  resource := id.resource
  key_ne_empty := by
    rw [trim_key]
    exact id.key_ne_empty

@[simp] theorem key_plain (id : ChannelId) : id.plain.key = id.key := id.trim_key

@[simp] theorem resource_plain (id : ChannelId) : id.plain.resource = id.resource := rfl

/-- The text of a channel has no blanks at its ends. -/
theorem trim_wire (id : ChannelId) : Text.trim id.wire = id.wire := by
  have hchars : id.wire.toList = id.key.toList ++ '@' :: id.resource.wire.toList := by
    simp [wire]
  have hkey : id.key.toList ≠ [] := by
    intro hempty
    exact id.key_ne_empty (String.toList_eq_nil_iff.mp hempty)
  have hfront : id.wire.toList.dropWhile Text.isBlank = id.wire.toList := by
    have hfirst : id.key.toList.dropWhile Text.isBlank = id.key.toList := by
      rw [key, Text.toList_trim, Text.dropWhile_trimChars]
    rw [List.dropWhile_eq_self_iff] at hfirst ⊢
    intro hl
    have hpos := List.length_pos_iff.mpr hkey
    simp only [hchars, List.getElem_append_left hpos]
    exact hfirst hpos
  have hback : id.wire.toList.rdropWhile Text.isBlank = id.wire.toList := by
    refine List.rdropWhile_eq_self_iff.mpr ?_
    intro hl hblank
    have hlast : id.wire.toList.getLast hl ∈ '@' :: id.resource.wire.toList := by
      simp only [hchars, List.getLast_append_of_ne_nil _ (List.cons_ne_nil _ _)]
      exact List.getLast_mem _
    rcases List.mem_cons.mp hlast with hat | hmem
    · rw [hat] at hblank
      exact absurd hblank (by decide)
    · rw [(Vocabulary.isWord_wire id.resource).isBlank_eq_false _ hmem] at hblank
      cases hblank
  rw [Text.trim, Text.trimChars_eq, hfront, hback, String.ofList_toList]

/-! ## Reading -/

theorem new_eq_ok_iff {id : String} {resource : Resource} {channel : ChannelId} :
    new id resource = .ok channel ↔ channel.id = id ∧ channel.resource = resource := by
  unfold new
  split
  · rename_i hempty
    refine iff_of_false (fun h => by cases h) ?_
    rintro ⟨rfl, -⟩
    exact channel.key_ne_empty hempty
  · rw [Except.ok.injEq]
    constructor
    · rintro rfl
      exact ⟨rfl, rfl⟩
    · rintro ⟨rfl, rfl⟩
      rfl

/-- A text names a channel exactly if it has one `@`, behind the id and before the resource type, which
may be in any case; blanks around either belong to neither. -/
theorem parse_eq_ok_iff {raw : String} {channel : ChannelId} :
    parse raw = .ok channel ↔ ∃ left right : List Char, raw.toList = left ++ '@' :: right ∧
      '@' ∉ left ∧ '@' ∉ right ∧ channel.id = Text.trim (String.ofList left) ∧
      Text.sameCaseless channel.resource.wire (Text.trim (String.ofList right)) = true := by
  refine Text.iff_exists_pair (fun left right hsplit => ?_) (fun hsplit h => ?_)
  · have htype : Text.sameCaseless channel.resource.wire (Text.trim (String.ofList right)) = true ↔
        Vocabulary.ofWire (Text.trim (String.ofList right)) = .ok channel.resource := by
      rw [Vocabulary.ofWire_eq_ok_iff]
      exact Iff.rfl
    rw [htype, parse, hsplit]
    simp only
    split
    · rename_i resource hresource
      rw [new_eq_ok_iff, hresource, Except.ok.injEq, eq_comm (a := channel.resource)]
    · rename_i unknown hunknown
      rw [hunknown]
      exact iff_of_false (fun h => by cases h) (fun h => by cases h.2)
  · unfold parse at h
    split at h
    · rename_i left right hpair
      exact hsplit left right hpair
    · cases h

/-- Two tokens around an `@` name a channel exactly if there is no other `@` in them. -/
theorem parse_tokens_eq_ok_iff {left right : String} {channel : ChannelId} :
    parse (left ++ "@" ++ right) = .ok channel ↔ '@' ∉ left.toList ∧ '@' ∉ right.toList ∧
      channel.id = Text.trim left ∧
      Text.sameCaseless channel.resource.wire (Text.trim right) = true := by
  have hchars : (left ++ "@" ++ right).toList = left.toList ++ '@' :: right.toList := by
    simp
  rw [parse_eq_ok_iff, hchars]
  constructor
  · rintro ⟨front, back, hsame, hfront, hback, hid, htype⟩
    obtain ⟨rfl, -, rfl⟩ := (List.append_cons_inj_of_notMem hfront hback).mp hsame.symm
    rw [String.ofList_toList] at hid htype
    exact ⟨hfront, hback, hid, htype⟩
  · rintro ⟨hleft, hright, hid, htype⟩
    refine ⟨left.toList, right.toList, rfl, hleft, hright, ?_, ?_⟩
    · rw [String.ofList_toList, hid]
    · rw [String.ofList_toList]
      exact htype

/-- Of the tokens around an `@` it does not matter what is trimmed away, nor in which case the type is
written. -/
theorem parse_tokens_congr {left right left' right' : String}
    (hleft : Text.trim left' = Text.trim left) (hatLeft : '@' ∈ left'.toList ↔ '@' ∈ left.toList)
    (hright : Text.sameCaseless (Text.trim right') (Text.trim right) = true)
    (hatRight : '@' ∈ right'.toList ↔ '@' ∈ right.toList) (channel : ChannelId) :
    parse (left' ++ "@" ++ right') = .ok channel ↔ parse (left ++ "@" ++ right) = .ok channel := by
  rw [parse_tokens_eq_ok_iff, parse_tokens_eq_ok_iff, hatLeft, hatRight, hleft,
    Text.sameCaseless_congr hright]

theorem parse_pads_tokens {left right left' right' : String} (hleft : Text.Pads left left')
    (hright : Text.Pads right right') (channel : ChannelId) :
    parse (left' ++ "@" ++ right') = .ok channel ↔ parse (left ++ "@" ++ right) = .ok channel := by
  have hat : Text.isBlank '@' = false := by decide
  refine parse_tokens_congr hleft.trim_eq (hleft.mem_iff hat) ?_ (hright.mem_iff hat) channel
  rw [hright.trim_eq]
  exact Text.sameCaseless_refl _

theorem parse_caseless {left right right' : String} (h : Text.sameCaseless right' right = true)
    (channel : ChannelId) :
    parse (left ++ "@" ++ right') = .ok channel ↔ parse (left ++ "@" ++ right) = .ok channel :=
  parse_tokens_congr rfl Iff.rfl (Text.sameCaseless_trim h)
    (Text.mem_iff_of_sameCaseless (by decide) h) channel

/-- Blanks around a name do not matter. -/
theorem parse_pads {raw padded : String} (h : Text.Pads raw padded) (channel : ChannelId) :
    parse padded = .ok channel ↔ parse raw = .ok channel := by
  -- the blanks belong to the tokens, if there are any
  by_cases hthere : '@' ∈ raw.toList
  · obtain ⟨left, right, hraw⟩ := List.append_of_mem hthere
    obtain ⟨before, after, hbefore, hafter, hpadded⟩ := h
    have hrawTokens : raw = String.ofList left ++ "@" ++ String.ofList right := by
      rw [← String.toList_inj]
      simp [hraw]
    have hpaddedTokens : padded =
        String.ofList (before ++ left) ++ "@" ++ String.ofList (right ++ after) := by
      rw [← String.toList_inj]
      simp [hpadded, hraw]
    have hleft : Text.Pads (String.ofList left) (String.ofList (before ++ left)) :=
      ⟨before, [], hbefore, by simp, by simp⟩
    have hright : Text.Pads (String.ofList right) (String.ofList (right ++ after)) :=
      ⟨[], after, by simp, hafter, by simp⟩
    rw [hrawTokens, hpaddedTokens]
    exact parse_pads_tokens hleft hright channel
  · have hat : Text.isBlank '@' = false := by decide
    have hnone : ∀ s : String, '@' ∉ s.toList → ¬ parse s = .ok channel := by
      intro s hs hparse
      obtain ⟨left, right, hchars, -⟩ := parse_eq_ok_iff.mp hparse
      exact hs (by simp [hchars])
    exact iff_of_false (hnone padded fun hmem => hthere ((h.mem_iff hat).mp hmem)) (hnone raw hthere)

/-- A channel is read back from its text, if there is no `@` in its key. -/
theorem parse_wire {id : ChannelId} (h : '@' ∉ id.key.toList) : parse id.wire = .ok id.plain := by
  have hresource : '@' ∉ id.resource.wire.toList := by
    cases id.resource <;> decide
  have htype : Text.trim id.resource.wire = id.resource.wire :=
    Text.trim_eq_self (Vocabulary.isWord_wire id.resource).isBlank_eq_false
  refine parse_eq_ok_iff.mpr ⟨id.key.toList, id.resource.wire.toList, ?_, h, hresource, ?_, ?_⟩
  · simp [wire]
  · rw [String.ofList_toList, trim_key]
    rfl
  · rw [String.ofList_toList, htype]
    exact Text.sameCaseless_refl _

/-- With an `@` in its key the text of a channel has one too many, and names no channel. -/
theorem parse_wire_of_at {id : ChannelId} (h : '@' ∈ id.key.toList) :
    parse id.wire = .error (.notChannelId id.wire) := by
  have hchars : id.wire.toList = id.key.toList ++ '@' :: id.resource.wire.toList := by
    simp [wire]
  unfold parse
  split
  · rename_i left right hpair
    obtain ⟨hraw, hleft, hright⟩ := Text.splitOnP_eq_pair_iff.mp hpair
    have hsame := congrArg (List.count '@') (hchars.symm.trans hraw)
    have hkey : 0 < id.key.toList.count '@' := List.count_pos_iff.mpr h
    rw [List.count_append, List.count_append, List.count_cons_self, List.count_cons_self,
      List.count_eq_zero_of_not_mem hleft, List.count_eq_zero_of_not_mem hright] at hsame
    omega
  · rfl

theorem mem_of_mem_key_of_parse {raw : String} {id : ChannelId} (h : parse raw = .ok id) :
    ∀ c ∈ id.key.toList, c ∈ raw.toList := by
  obtain ⟨left, right, hraw, -, -, hid, -⟩ := parse_eq_ok_iff.mp h
  intro c hc
  rw [key, hid, Text.trim_trim, Text.toList_trim, String.toList_ofList] at hc
  rw [hraw]
  exact List.mem_append_left _ ((Text.trimChars_sublist left).mem hc)

theorem at_notMem_key_of_parse {raw : String} {id : ChannelId} (h : parse raw = .ok id) :
    '@' ∉ id.key.toList := by
  obtain ⟨left, right, -, hleft, -, hid, -⟩ := parse_eq_ok_iff.mp h
  rw [key, hid, Text.trim_trim, Text.toList_trim, String.toList_ofList]
  exact fun hmem => hleft ((Text.trimChars_sublist left).mem hmem)

theorem plain_of_parse {raw : String} {id : ChannelId} (h : parse raw = .ok id) : id.plain = id := by
  obtain ⟨left, right, -, -, -, hid, -⟩ := parse_eq_ok_iff.mp h
  have hkey : id.key = id.id := by
    rw [key, hid, Text.trim_trim]
  cases id
  simp only [plain, hkey]

/-! ## Sizes -/

theorem size_resource_bounds (resource : Resource) :
    8 ≤ Text.size resource.wire.toList ∧ Text.size resource.wire.toList ≤ 11 := by
  cases resource <;> decide

theorem size_wire (id : ChannelId) :
    Text.size id.wire.toList = Text.size id.key.toList + 1 + Text.size id.resource.wire.toList := by
  have hat : Text.size "@".toList = 1 := by decide
  rw [wire, Text.size_toList_append, Text.size_toList_append, hat]

/-- A channel that was read from a text is no larger than the text. -/
theorem size_wire_le_of_parse {raw : String} {id : ChannelId} (h : parse raw = .ok id) :
    Text.size id.wire.toList ≤ Text.size raw.toList := by
  obtain ⟨left, right, hraw, -, -, hid, hresource⟩ := parse_eq_ok_iff.mp h
  have hkey : Text.size id.key.toList ≤ Text.size left := by
    have hle := Text.size_trim_le (String.ofList left)
    rw [key, hid, Text.trim_trim]
    rwa [String.toList_ofList] at hle
  have htype : Text.size id.resource.wire.toList ≤ Text.size right := by
    have hascii : id.resource.wire.toList.all fun c => c.toNat ≤ 127 := by
      cases id.resource <;> decide
    have hle := Text.size_trim_le (String.ofList right)
    rw [String.toList_ofList] at hle
    exact Nat.le_trans (Text.size_le_of_sameCaseless hascii hresource) hle
  have hat : Char.utf8Size '@' = 1 := rfl
  rw [size_wire, hraw, Text.size_append, Text.size_cons, hat]
  omega

end ChannelId

end MediaControl
