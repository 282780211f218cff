import MediaControl.Error
import MediaControl.Proofs.Header.ChannelId
import MediaControl.Proofs.Wire.Written

/-!
# Headers that name a channel

Naming a channel in the headers of a message makes it the channel of the message, whatever the headers
named before and however often, and so it is when the headers have become their lines.

Main statements: `channelId_stamp` and `channelId_plain_stamp`.
-/

set_option autoImplicit false

namespace MediaControl.Headers

/-! ## Headers that are set -/

theorem get?_cons (h : Header) (hs : Headers) (name : String) :
    Headers.get? (h :: hs) name = if h.hasName name then some h else Headers.get? hs name := by
  rw [Headers.get?, List.find?_cons]
  cases h.hasName name <;> rfl

/-- The header that was set is the first of its name, in one spelling or another. -/
theorem get?_set (hs : Headers) (h : Header) :
    ∃ name, Text.sameCaseless name h.name = true ∧
      Headers.get? (Headers.set hs h) h.name = some (h.renamed name) := by
  induction hs with
  | nil =>
      refine ⟨h.name, Text.sameCaseless_refl _, ?_⟩
      have hself : h.hasName h.name = true := Text.sameCaseless_refl _
      rw [Headers.set, get?_cons, if_pos hself]
      rfl
  | cons old rest ih =>
      rw [Headers.set]
      by_cases hold : old.hasName h.name = true
      · refine ⟨old.name, hold, ?_⟩
        have hself : (h.renamed old.name).hasName h.name = true := hold
        rw [if_pos hold, get?_cons, if_pos hself]
      · obtain ⟨name, hname, hget⟩ := ih
        refine ⟨name, hname, ?_⟩
        rw [if_neg hold, get?_cons, if_neg hold, hget]

/-- A header with a new name comes behind all others. -/
theorem set_of_not_contains {hs : Headers} {h : Header} (hnew : Headers.contains hs h.name = false) :
    Headers.set hs h = hs ++ [h] := by
  induction hs with
  | nil => rfl
  | cons old rest ih =>
      rw [Headers.contains, get?_cons] at hnew
      by_cases hold : old.hasName h.name = true
      · rw [if_pos hold] at hnew
        cases hnew
      · rw [if_neg hold] at hnew
        rw [Headers.set, if_neg hold, ih hnew, List.cons_append]

theorem get?_map_plain (hs : Headers) (name : String) :
    Headers.get? (hs.map Header.plain) name = (Headers.get? hs name).map Header.plain := by
  rw [Headers.get?, Headers.get?, List.find?_map]
  rfl

/-! ## The channel that is named -/

theorem get?_of_channelId {hs : Headers} {channel : ChannelId}
    (h : Headers.channelId hs = .ok channel) :
    ∃ line, Headers.get? hs Catalogue.channelIdentifier = some line := by
  unfold Headers.channelId at h
  split at h
  · cases h
  · rename_i line hget
    exact ⟨line, hget⟩

/-- The channel that was named last is the channel, whatever was named before. -/
theorem channelId_stamp (hs : Headers) (channel : ChannelId) :
    Headers.channelId (Headers.stamp hs channel) = .ok channel := by
  obtain ⟨name, -, hget⟩ := get?_set hs channel.header
  have hfirst : Headers.get? (Headers.stamp hs channel) Catalogue.channelIdentifier =
      some (channel.header.renamed name) := hget
  rw [Headers.channelId, hfirst]
  rfl

theorem kindOf_channelIdentifier {name : String}
    (h : Text.sameCaseless name Catalogue.channelIdentifier = true) :
    Catalogue.kindOf name = .channelId := by
  have hfirst : Text.sameCaseless Catalogue.channelIdentifier name = true :=
    (Text.sameCaseless_comm _ _).trans h
  simp only [Catalogue.kindOf, Catalogue.lookup, Catalogue.entries, List.cons_append,
    List.find?_cons, hfirst]

/-- A header that was made from a text and should name a channel stands for what its text says. -/
theorem value_of_channelIdentifier {h : Header} (hplain : h.plain = h)
    (hname : h.hasName Catalogue.channelIdentifier = true) :
    h.value = match ChannelId.parse h.raw with
      | .ok channel => .ok (.channel channel)
      | .error reason => .error (.ofCause (.illegalHeader h.name h.raw reason)) := by
  have hresolve : h.resolve = (ChannelId.parse h.raw).map .channel := by
    rw [← hplain]
    show Catalogue.read h.name h.raw = _
    rw [Catalogue.read, kindOf_channelIdentifier hname, ValueKind.read]
    rfl
  rw [Header.value, hresolve]
  cases ChannelId.parse h.raw with
  | error reason => rfl
  | ok channel => rfl

/-- Headers that were made from texts name the channel that the text of the first of them says. -/
theorem channelId_of_plain {hs : Headers} (hplain : ∀ h ∈ hs, h.plain = h) :
    Headers.channelId hs = match Headers.get? hs Catalogue.channelIdentifier with
      | none => .error (.ofCause .noChannelIdentifier)
      | some h => match ChannelId.parse h.raw with
        | .ok channel => .ok channel
        | .error reason => .error (.ofCause (.illegalHeader h.name h.raw reason)) := by
  rw [Headers.channelId]
  cases hget : Headers.get? hs Catalogue.channelIdentifier with
  | none => rfl
  | some h =>
      simp only [value_of_channelIdentifier (hplain h (mem_of_get? hget)) (hasName_of_get? hget)]
      cases ChannelId.parse h.raw with
      | error reason => rfl
      | ok channel => rfl

/-- The name of a channel is read from its line, however the header is spelled, if there is no `@` in
the key. -/
theorem value_plain_header {name : String}
    (hname : Text.sameCaseless name Catalogue.channelIdentifier = true) {channel : ChannelId}
    (h : '@' ∉ channel.key.toList) :
    (Header.plain (channel.header.renamed name)).value = .ok (.channel channel.plain) := by
  have hread : Catalogue.read name channel.wire = .ok (.channel channel.plain) := by
    rw [Catalogue.read, kindOf_channelIdentifier hname, ValueKind.read, ChannelId.parse_wire h]
    rfl
  have hresolve : (Header.plain (channel.header.renamed name)).resolve = _ := hread
  rw [Header.value, hresolve]

/-- A channel that was named is read from the lines of the headers. -/
theorem channelId_plain_stamp (hs : Headers) {channel : ChannelId}
    (h : '@' ∉ channel.key.toList) :
    Headers.channelId ((Headers.stamp hs channel).map Header.plain) = .ok channel.plain := by
  obtain ⟨name, hname, hget⟩ := get?_set hs channel.header
  have hfirst : Headers.get? (Headers.stamp hs channel) Catalogue.channelIdentifier =
      some (channel.header.renamed name) := hget
  rw [Headers.channelId, get?_map_plain, hfirst, Option.map_some]
  simp only [value_plain_header hname h]

theorem channelId_plain_cons {channel : ChannelId} (h : '@' ∉ channel.key.toList) (hs : Headers) :
    Headers.channelId ((channel.header :: hs).map Header.plain) = .ok channel.plain := by
  have hself : channel.header.hasName Catalogue.channelIdentifier = true := Text.sameCaseless_refl _
  have hvalue : channel.header.plain.value = .ok (.channel channel.plain) :=
    value_plain_header (Text.sameCaseless_refl Catalogue.channelIdentifier) h
  rw [Headers.channelId, get?_map_plain, get?_cons, if_pos hself, Option.map_some]
  simp only [hvalue]

theorem stampMissing_of_contains {hs : Headers}
    (h : Headers.contains hs Catalogue.channelIdentifier = true) (channel : ChannelId) :
    Headers.stampMissing hs channel = hs := by
  rw [Headers.stampMissing, if_pos h]

theorem stampMissing_of_not_contains {hs : Headers}
    (h : Headers.contains hs Catalogue.channelIdentifier = false) (channel : ChannelId) :
    Headers.stampMissing hs channel = Headers.stamp hs channel := by
  rw [Headers.stampMissing, h, if_neg Bool.false_ne_true]

/-- The header that names a channel can go into a line, if no line ends in the key. -/
theorem wireSafe_header {channel : ChannelId} (h : '\n' ∉ channel.key.toList) :
    channel.header.WireSafe where
  name_ne_empty := show Catalogue.channelIdentifier ≠ "" by decide
  trim_name := show Text.trim Catalogue.channelIdentifier = Catalogue.channelIdentifier by decide
  colon_notMem_name := show ':' ∉ Catalogue.channelIdentifier.toList by decide
  lineFeed_notMem_name := show '\n' ∉ Catalogue.channelIdentifier.toList by decide
  not_contentLength :=
    show Text.sameCaseless Catalogue.channelIdentifier Catalogue.contentLength = false by decide
  trim_raw := channel.trim_wire
  lineFeed_notMem_raw := by
    have hchars : channel.header.raw.toList =
        channel.key.toList ++ '@' :: channel.resource.wire.toList := by
      show channel.wire.toList = _
      simp [ChannelId.wire]
    have hresource : '\n' ∉ channel.resource.wire.toList := by
      cases channel.resource <;> decide
    rw [hchars, List.mem_append, List.mem_cons]
    rintro (hkey | hat | hmem)
    · exact h hkey
    · cases hat
    · exact hresource hmem

end MediaControl.Headers
