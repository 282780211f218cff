import MediaControl.Proofs.Header.Cause
import MediaControl.Proofs.Header.Naming

/-!
# What the other end makes of a value (SPEC_FULL §3, §4.2)

The other end of a connection has only the text of a value.  It takes a channel for the same channel
exactly if there is no `@` in the id; a text with two of them names no channel.  It takes a completion
cause for one with the same code and the same word; blanks around the word, which the cause keeps, are
not in the text, so that causes that differ in them alone are written alike.

Main statements: `ChannelId.recognized_iff` and `CompletionCause.reread_iff`.
-/

set_option autoImplicit false

namespace MediaControl

/-! ## Channels -/

/-- The messages that are made on a channel. -/
inductive Message.MadeOn (channel : ChannelId) : Message → Prop
  | request (method : Method) : MadeOn channel (.request (.new method channel))
  | response (id : Nat) (status : Status) (state : RequestState) :
      MadeOn channel (.response (.new id status state channel))
  | event (name : EventName) (id : Nat) (state : RequestState) :
      MadeOn channel (.event (.new name id state channel))

theorem Message.MadeOn.headers_eq {channel : ChannelId} {m : Message} (h : Message.MadeOn channel m) :
    m.headers = [channel.header] := by
  cases h with
  | request method => rfl
  | response id status state => rfl
  | event name id state => rfl

namespace ChannelId

theorem beq_iff {a b : ChannelId} : (a == b) = true ↔ a.key = b.key ∧ a.resource = b.resource := by
  show (a.key == b.key && a.resource == b.resource) = true ↔ _
  rw [Bool.and_eq_true, beq_iff_eq, beq_iff_eq]

theorem plain_beq_self (id : ChannelId) : (id.plain == id) = true :=
  beq_iff.mpr ⟨id.key_plain, id.resource_plain⟩

theorem at_mem_key_iff (id : ChannelId) : '@' ∈ id.key.toList ↔ '@' ∈ id.id.toList :=
  Text.mem_trim_iff (by decide)

/-- What is read from the text of a channel. -/
theorem parse_wire_eq (id : ChannelId) :
    parse id.wire = if '@' ∈ id.id.toList then .error (.notChannelId id.wire) else .ok id.plain := by
  split
  · rename_i hat
    exact parse_wire_of_at (id.at_mem_key_iff.mpr hat)
  · rename_i hat
    exact parse_wire fun hkey => hat (id.at_mem_key_iff.mp hkey)

/-- Which channel a message names that was made on a channel, once its headers have become texts. -/
theorem channelId_of_madeOn {channel : ChannelId} {m : Message} (h : Message.MadeOn channel m) :
    m.plain.channelId = if '@' ∈ channel.id.toList then
        .error (.ofCause (.illegalHeader Catalogue.channelIdentifier channel.wire
          (.notChannelId channel.wire)))
      else .ok channel.plain := by
  have hheaders : m.plain.headers = [channel.header.plain] := by
    rw [Message.plain, Message.headers_withHeaders, h.headers_eq, List.map_singleton]
  have hself : channel.header.plain.hasName Catalogue.channelIdentifier = true :=
    Text.sameCaseless_refl _
  have hplain : ∀ line ∈ [channel.header.plain], line.plain = line := by
    intro line hline
    rw [List.mem_singleton.mp hline]
    rfl
  have hraw : channel.header.plain.raw = channel.wire := rfl
  rw [Message.channelId, hheaders, Headers.channelId_of_plain hplain, Headers.get?_cons, if_pos hself]
  by_cases hat : '@' ∈ channel.id.toList
  · simp only [hraw, parse_wire_eq, if_pos hat]
    rfl
  · simp only [hraw, parse_wire_eq, if_neg hat]

/-- What is either the channel as its text says it or a failure is the channel exactly if it is not the
failure. -/
theorem exists_same_iff {ε : Type} {failed : Prop} [Decidable failed] {e : ε} {channel : ChannelId} :
    (∃ read, (if failed then .error e else .ok channel.plain : Except ε ChannelId) = .ok read ∧
      (read == channel) = true) ↔ ¬ failed := by
  by_cases h : failed
  · rw [if_pos h]
    refine iff_of_false ?_ (not_not_intro h)
    rintro ⟨read, hread, -⟩
    cases hread
  · rw [if_neg h]
    exact iff_of_true ⟨channel.plain, rfl, channel.plain_beq_self⟩ h

/-- A channel is read from its text as the same channel, and so is the channel of every message that was
made on it once the headers have become texts, exactly if there is no `@` in the id. -/
theorem recognized_iff {id : String} {resource : Resource} {channel : ChannelId}
    (hnew : new id resource = .ok channel) :
    ((∃ read, parse channel.wire = .ok read ∧ (read == channel) = true) ↔ '@' ∉ id.toList) ∧
    ∀ m, Message.MadeOn channel m →
      ((∃ read, m.plain.channelId = .ok read ∧ (read == channel) = true) ↔ '@' ∉ id.toList) := by
  obtain ⟨hid, -⟩ := new_eq_ok_iff.mp hnew
  rw [← hid]
  constructor
  · rw [parse_wire_eq]
    exact exists_same_iff
  · intro m hm
    rw [channelId_of_madeOn hm]
    exact exists_same_iff

/-- A channel whose id has blanks within and around it. -/
def spaced : ChannelId := ⟨"\u00a032AE CB \t", .recorder, (by decide : ¬ Text.trim "\u00a032AE CB \t" = "")⟩

/-- It is recognized. -/
theorem recognized_iff_spaced : new "\u00a032AE CB \t" .recorder = .ok spaced ∧
    (∃ read, parse spaced.wire = .ok read ∧ (read == spaced) = true) ∧
    ∃ read, (Message.request (.new .record spaced)).plain.channelId = .ok read ∧
      (read == spaced) = true := by
  have hnew : new "\u00a032AE CB \t" .recorder = .ok spaced := new_eq_ok_iff.mpr ⟨rfl, rfl⟩
  obtain ⟨htext, hmessages⟩ := recognized_iff hnew
  exact ⟨hnew, htext.mpr (by decide), (hmessages _ (.request .record)).mpr (by decide)⟩

/-- A channel with an `@` in its id. -/
def parted : ChannelId := ⟨"a@b", .speechSynth, (by decide : ¬ Text.trim "a@b" = "")⟩

/-- The channel can be made; nothing is read from its text, and nobody sees it in the headers of a
request that was made on it. -/
theorem parted_is_lost : new "a@b" .speechSynth = .ok parted ∧
    (∀ read, parse parted.wire ≠ .ok read) ∧
    ∀ read, (Message.request (.new .stop parted)).plain.channelId ≠ .ok read := by
  have hat : '@' ∈ parted.id.toList := by decide
  refine ⟨new_eq_ok_iff.mpr ⟨rfl, rfl⟩, ?_, ?_⟩
  · intro read hread
    rw [parse_wire_eq, if_pos hat] at hread
    cases hread
  · intro read hread
    rw [channelId_of_madeOn (.request .stop), if_pos hat] at hread
    cases hread

end ChannelId

/-! ## Completion causes -/

namespace CompletionCause

/-- The cause was made from its parts, or read. -/
def IsMade (c : CompletionCause) : Prop :=
  (∃ code name, new code name = .ok c) ∨ ∃ raw, parse raw = .ok c

/-- The causes that are made are those whose names are words, blanks at their ends apart. -/
theorem isMade_iff {c : CompletionCause} : c.IsMade ↔ Text.IsWord (Text.trim c.name) := by
  constructor
  · rintro (⟨code, name, hnew⟩ | ⟨raw, hparse⟩)
    · obtain ⟨-, hname, hword⟩ := new_eq_ok_iff.mp hnew
      rw [hname]
      exact hword
    · obtain ⟨-, -, -, -, -, -, -, hword⟩ := parse_eq_ok_iff.mp hparse
      exact hword
  · intro hword
    exact .inl ⟨c.code, c.name, new_eq_ok_iff.mpr ⟨rfl, rfl, hword⟩⟩

theorem plain_eq_self_iff {c : CompletionCause} : c.plain = c ↔ Text.trim c.name = c.name := by
  cases c
  simp [plain]

theorem plain_eq_plain_iff {c d : CompletionCause} :
    c.plain = d.plain ↔ c.code = d.code ∧ Text.trim c.name = Text.trim d.name := by
  simp [plain]

/-- Causes are written alike exactly if they are the same as their texts say them. -/
theorem wire_eq_wire_iff {c d : CompletionCause} (hc : c.IsMade) (hd : d.IsMade) :
    c.wire = d.wire ↔ c.plain = d.plain := by
  constructor
  · intro hwire
    have hread := parse_wire (isMade_iff.mp hc)
    rw [hwire, parse_wire (isMade_iff.mp hd)] at hread
    exact (Except.ok.inj hread).symm
  · intro hplain
    rw [← wire_plain c, hplain, wire_plain]

/-- The text of a cause is read, as the cause with the name as the text says it; that is the cause itself
exactly if the name has no blanks at its ends.  Causes are written alike exactly if they have the same
code and the same name but for such blanks; where there are none, causes are the same exactly if their
texts are. -/
theorem reread_iff {c : CompletionCause} (hc : c.IsMade) :
    parse c.wire = .ok c.plain ∧
    (parse c.wire = .ok c ↔ Text.trim c.name = c.name) ∧
    ∀ d : CompletionCause, d.IsMade →
      (c.wire = d.wire ↔ c.code = d.code ∧ Text.trim c.name = Text.trim d.name) ∧
      (Text.trim c.name = c.name → Text.trim d.name = d.name → (c = d ↔ c.wire = d.wire)) := by
  have hread : parse c.wire = .ok c.plain := parse_wire (isMade_iff.mp hc)
  refine ⟨hread, ?_, ?_⟩
  · rw [hread, Except.ok.injEq]
    exact plain_eq_self_iff
  · intro d hd
    have halike := wire_eq_wire_iff hc hd
    refine ⟨halike.trans plain_eq_plain_iff, ?_⟩
    intro hbareC hbareD
    rw [halike, plain_eq_self_iff.mpr hbareC, plain_eq_self_iff.mpr hbareD]

/-- A cause whose name is one word. -/
def noMatch : CompletionCause := ⟨1, "no-match", by decide⟩

/-- The same cause with blanks around the name. -/
def spacedNoMatch : CompletionCause := ⟨1, "\tno-match ", by decide⟩

theorem isMade_noMatch : noMatch.IsMade := by
  apply isMade_iff.mpr
  exact ⟨by decide, Text.all_not_isBlank_iff.mp (by decide)⟩

theorem isMade_spacedNoMatch : spacedNoMatch.IsMade := by
  apply isMade_iff.mpr
  exact ⟨by decide, Text.all_not_isBlank_iff.mp (by decide)⟩

/-- The first is read back from its text, and the second is written like it. -/
theorem reread_iff_noMatch : noMatch.IsMade ∧ spacedNoMatch.IsMade ∧
    parse noMatch.wire = .ok noMatch ∧ noMatch.wire = spacedNoMatch.wire := by
  obtain ⟨-, hself, hothers⟩ := reread_iff isMade_noMatch
  obtain ⟨halike, -⟩ := hothers spacedNoMatch isMade_spacedNoMatch
  exact ⟨isMade_noMatch, isMade_spacedNoMatch, hself.mpr (by decide), halike.mpr (by decide)⟩

/-- The second can be made from its parts; it is written like the first and read as the first, which it
is not. -/
theorem blanks_tell_apart : new 1 "\tno-match " = .ok spacedNoMatch ∧
    spacedNoMatch.wire = noMatch.wire ∧ parse spacedNoMatch.wire = .ok noMatch ∧
    noMatch ≠ spacedNoMatch := by
  have hword := isMade_iff.mp isMade_spacedNoMatch
  have hplain : spacedNoMatch.plain = noMatch := by decide
  refine ⟨new_eq_ok_iff.mpr ⟨rfl, rfl, hword⟩, by decide, ?_, by decide⟩
  rw [parse_wire hword, hplain]

end CompletionCause

end MediaControl
