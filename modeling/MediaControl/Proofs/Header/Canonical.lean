import MediaControl.Header.Catalogue
import MediaControl.Proofs.Header.Cause
import MediaControl.Proofs.Header.ChannelId
import MediaControl.Proofs.Number.DecimalText
import MediaControl.Proofs.Number.Read

/-!
# Canonical texts of header values (SPEC_FULL §4.2)

A header value is relayed by reading its text and writing the value again.  What is written is read as
the same value, so that it does not change its meaning however often it is relayed; only the name of a
completion cause may lose blanks at its ends the first time, which its text does not have.

Blanks around a value, or around a part of a channel's name, and the case of a truth value or a resource
type do not matter to the value.

Main statement: `Catalogue.read_canonical`.
-/

set_option autoImplicit false

namespace MediaControl

/-! ## What is read as a value -/

namespace ValueKind

/-- A text is read as an integer exactly if it is a row of digits, blanks around it apart, and the
number has 64 bits. -/
theorem readInteger_eq_ok_iff {raw : String} {v : HeaderValue} :
    readInteger raw = .ok v ↔ ∃ n, v = .integer n ∧ (Text.trim raw).toList ≠ [] ∧
      (∀ c ∈ (Text.trim raw).toList, c.isDigit = true) ∧
      Natural.valueFrom 0 (Text.trim raw).toList = n ∧ n ≤ Natural.max64 := by
  unfold readInteger
  simp only
  generalize Text.trim raw = s
  have hread (hne : s.toList ≠ []) (hdigits : ∀ c ∈ s.toList, c.isDigit = true) {n : Nat} :
      Natural.read Natural.max64 s = .ok n ↔
        Natural.valueFrom 0 s.toList = n ∧ n ≤ Natural.max64 := by
    rw [Natural.read, Natural.readChars_of_isDigit hne hdigits,
      Natural.readFrom_eq_ok_iff (Nat.zero_le _)]
    exact and_iff_right hdigits
  have hrow : (s.toList.isEmpty || !s.toList.all Char.isDigit) = false ↔
      s.toList ≠ [] ∧ ∀ c ∈ s.toList, c.isDigit = true := by
    simp
  split
  · rename_i hother
    refine iff_of_false (fun h => by cases h) ?_
    rintro ⟨n, -, hne, hdigits, -⟩
    rw [hrow.mpr ⟨hne, hdigits⟩] at hother
    cases hother
  · rename_i hother
    obtain ⟨hne, hdigits⟩ := hrow.mp (Bool.eq_false_iff.mpr hother)
    split
    · rename_i n hn
      obtain ⟨hvalue, hle⟩ := (hread hne hdigits).mp hn
      rw [Except.ok.injEq]
      constructor
      · rintro rfl
        exact ⟨n, rfl, hne, hdigits, hvalue, hle⟩
      · rintro ⟨other, rfl, -, -, hother, -⟩
        rw [← hother, hvalue]
    · rename_i fault hfault
      refine iff_of_false (fun h => by cases h) ?_
      rintro ⟨n, -, -, -, hn⟩
      rw [(hread hne hdigits).mpr hn] at hfault
      cases hfault

/-- A text is read as a truth value exactly if it says it, in any case, blanks around it apart. -/
theorem readBoolean_eq_ok_iff {raw : String} {v : HeaderValue} :
    readBoolean raw = .ok v ↔ ∃ b, v = .boolean b ∧
      Text.sameCaseless (Text.trim raw) (HeaderValue.truthText b) = true := by
  -- no text says both, so it does not matter which is looked at first
  have hdiffer {s : String} (htrue : Text.sameCaseless s "true" = true) :
      ¬ Text.sameCaseless s "false" = true := by
    intro hfalse
    rw [Text.sameCaseless_comm] at htrue
    exact absurd (Text.sameCaseless_trans htrue hfalse) (by decide)
  rw [Bool.exists_bool]
  unfold readBoolean
  simp only
  split
  · rename_i htrue
    rw [Except.ok.injEq]
    constructor
    · rintro rfl
      exact Or.inr ⟨rfl, htrue⟩
    · rintro (⟨-, hfalse⟩ | ⟨rfl, -⟩)
      · exact absurd hfalse (hdiffer htrue)
      · rfl
  · rename_i htrue
    split
    · rename_i hfalse
      rw [Except.ok.injEq]
      constructor
      · rintro rfl
        exact Or.inl ⟨rfl, hfalse⟩
      · rintro (⟨rfl, -⟩ | ⟨-, h⟩)
        · rfl
        · exact absurd h htrue
    · rename_i hfalse
      refine iff_of_false (fun h => by cases h) ?_
      rintro (⟨-, h⟩ | ⟨-, h⟩)
      · exact hfalse h
      · exact htrue h

/-- A text is read as a number of the unit interval exactly if it is a decimal, blanks around it apart,
whose nearest double is one. -/
theorem readUnitFloat_eq_ok_iff {raw : String} {v : HeaderValue} :
    readUnitFloat raw = .ok v ↔ ∃ x, v = .float x ∧
      (Numeral.read? (Text.trim raw)).map Numeral.toFloat = some x ∧ 0.0 ≤ x ∧ x ≤ 1.0 := by
  unfold readUnitFloat
  split
  · rename_i hnone
    refine iff_of_false (fun h => by cases h) ?_
    rintro ⟨x, -, hx, -⟩
    rw [hnone] at hx
    cases hx
  · rename_i numeral hnumeral
    rw [hnumeral, Option.map_some]
    simp only [Bool.and_eq_true, decide_eq_true_eq, Option.some.injEq]
    split
    · rename_i hunit
      rw [Except.ok.injEq]
      constructor
      · rintro rfl
        exact ⟨_, rfl, rfl, hunit⟩
      · rintro ⟨x, rfl, rfl, -⟩
        rfl
    · rename_i hunit
      refine iff_of_false (fun h => by cases h) ?_
      rintro ⟨x, -, rfl, hx⟩
      exact hunit hx

theorem readInteger_pads {raw padded : String} (h : Text.Pads raw padded) (v : HeaderValue) :
    readInteger padded = .ok v ↔ readInteger raw = .ok v := by
  rw [readInteger_eq_ok_iff, readInteger_eq_ok_iff, h.trim_eq]

/-- A number of 64 bits is read without loss, however many zeros stand before it; a larger one is
refused. -/
theorem readInteger_padded (width n : Nat) :
    readInteger (Natural.padded width n) = if n ≤ Natural.max64 then .ok (.integer n)
      else .error (.integerFault (Natural.padded width n) .tooLarge) := by
  have htrim : Text.trim (Natural.padded width n) = Natural.padded width n :=
    Text.trim_eq_self fun c hc => Text.isBlank_eq_false_of_isDigit (Natural.isDigit_of_mem_padded hc)
  have hrow : ((Natural.padded width n).toList.isEmpty ||
      !(Natural.padded width n).toList.all Char.isDigit) = false := by
    simp only [Bool.or_eq_false_iff, Bool.not_eq_false', List.all_eq_true]
    exact ⟨by simp [Natural.padded, Natural.digits_ne_nil], fun c => Natural.isDigit_of_mem_padded⟩
  simp only [readInteger, htrim, hrow, Natural.read_padded]
  by_cases hle : n ≤ Natural.max64
  · simp [hle]
  · simp [hle]

theorem readBoolean_truthText (b : Bool) : readBoolean (HeaderValue.truthText b) = .ok (.boolean b) := by
  rw [readBoolean_eq_ok_iff]
  refine ⟨b, rfl, ?_⟩
  cases b <;> decide

theorem readBoolean_pads {raw padded : String} (h : Text.Pads raw padded) (v : HeaderValue) :
    readBoolean padded = .ok v ↔ readBoolean raw = .ok v := by
  rw [readBoolean_eq_ok_iff, readBoolean_eq_ok_iff, h.trim_eq]

theorem readBoolean_caseless {raw other : String} (h : Text.sameCaseless other raw = true)
    (v : HeaderValue) : readBoolean other = .ok v ↔ readBoolean raw = .ok v := by
  have htrimmed (word : String) :
      Text.sameCaseless (Text.trim other) word = Text.sameCaseless (Text.trim raw) word := by
    rw [Text.sameCaseless_comm, Text.sameCaseless_congr (Text.sameCaseless_trim h),
      Text.sameCaseless_comm]
  simp only [readBoolean_eq_ok_iff, htrimmed]

theorem read_channelId_eq_ok_iff {raw : String} {v : HeaderValue} :
    channelId.read raw = .ok v ↔ ∃ id, v = .channel id ∧ ChannelId.parse raw = .ok id := by
  rw [read]
  cases ChannelId.parse raw <;> simp [Except.map, eq_comm]

theorem read_completionCause_eq_ok_iff {raw : String} {v : HeaderValue} :
    completionCause.read raw = .ok v ↔ ∃ c, v = .cause c ∧ CompletionCause.parse raw = .ok c := by
  rw [read]
  cases CompletionCause.parse raw <;> simp [Except.map, eq_comm]

end ValueKind

/-! ## Writing and reading again -/

/-- The value as its text says it. -/
def HeaderValue.plain : HeaderValue → HeaderValue
  | .cause c => .cause c.plain
  | v => v

@[simp] theorem HeaderValue.wire_plain (v : HeaderValue) : v.plain.wire = v.wire := by
  cases v with
  | cause c => exact c.wire_plain
  | text | integer | boolean | float | channel => rfl

namespace ValueKind

/-- What was read is written so that the same is read again, as its text says it. -/
theorem read_wire {kind : ValueKind} {raw : String} {v : HeaderValue} (h : kind.read raw = .ok v)
    (hfloat : ∀ x, v = .float x → PrintsBack x) : kind.read v.wire = .ok v.plain := by
  cases kind with
  | channelId =>
      obtain ⟨id, rfl, hparse⟩ := read_channelId_eq_ok_iff.mp h
      have hback := ChannelId.parse_wire (ChannelId.at_notMem_key_of_parse hparse)
      rw [ChannelId.plain_of_parse hparse] at hback
      exact read_channelId_eq_ok_iff.mpr ⟨id, rfl, hback⟩
  | completionCause =>
      obtain ⟨c, rfl, hparse⟩ := read_completionCause_eq_ok_iff.mp h
      obtain ⟨-, -, -, -, -, -, -, hword⟩ := CompletionCause.parse_eq_ok_iff.mp hparse
      exact read_completionCause_eq_ok_iff.mpr ⟨c.plain, rfl, CompletionCause.parse_wire hword⟩
  | integer =>
      rw [read] at h
      obtain ⟨n, rfl, -, -, -, hle⟩ := readInteger_eq_ok_iff.mp h
      rw [read, HeaderValue.wire, ← Natural.padded_zero, readInteger_padded, if_pos hle]
      rfl
  | boolean =>
      rw [read] at h
      obtain ⟨b, rfl, -⟩ := readBoolean_eq_ok_iff.mp h
      exact readBoolean_truthText b
  | unitFloat =>
      rw [read] at h
      obtain ⟨x, rfl, -, hunit⟩ := readUnitFloat_eq_ok_iff.mp h
      rw [read, HeaderValue.wire, readUnitFloat_eq_ok_iff]
      refine ⟨x, rfl, ?_, hunit⟩
      rw [DecimalStyle.trim_text]
      exact hfloat x rfl
  | text =>
      obtain rfl := Except.ok.inj h
      rfl

/-- Only causes have more to them than their text says. -/
theorem plain_of_read {kind : ValueKind} {raw : String} {v : HeaderValue}
    (h : kind.read raw = .ok v) (hkind : kind ≠ .completionCause) : v.plain = v := by
  cases kind with
  | channelId =>
      obtain ⟨id, rfl, -⟩ := read_channelId_eq_ok_iff.mp h
      rfl
  | completionCause => exact absurd rfl hkind
  | integer =>
      rw [read] at h
      obtain ⟨n, rfl, -⟩ := readInteger_eq_ok_iff.mp h
      rfl
  | boolean =>
      rw [read] at h
      obtain ⟨b, rfl, -⟩ := readBoolean_eq_ok_iff.mp h
      rfl
  | unitFloat =>
      rw [read] at h
      obtain ⟨x, rfl, -⟩ := readUnitFloat_eq_ok_iff.mp h
      rfl
  | text =>
      obtain rfl := Except.ok.inj h
      rfl

end ValueKind

/-! ## Headers by their names -/

namespace Catalogue

theorem kindOf_congr {name other : String} (h : Text.sameCaseless name other = true) :
    kindOf name = kindOf other := by
  simp only [kindOf, lookup, Text.sameCaseless_congr h]

/-- One header only is read as a cause. -/
theorem sameCaseless_of_kindOf {name : String} (h : kindOf name = .completionCause) :
    Text.sameCaseless name completionCause = true := by
  have honly : ∀ entry ∈ entries, entry.2 = .completionCause → entry.1 = completionCause := by
    decide
  unfold kindOf at h
  split at h
  · rename_i entry hentry
    rw [lookup] at hentry
    have hsame := List.find?_some hentry
    rw [honly entry (List.mem_of_find?_eq_some hentry) h, Text.sameCaseless_comm] at hsame
    exact hsame
  · cases h

theorem read_congr {name other : String} (h : Text.sameCaseless other name = true) (raw : String) :
    read other raw = read name raw := by
  rw [read, read, kindOf_congr h]

/-- What was read is written so that it is read again and written the same again; if it is no cause, it
is read as the same value. -/
theorem read_again {name raw : String} {v : HeaderValue} (h : read name raw = .ok v)
    (hfloat : ∀ x, v = .float x → PrintsBack x) :
    ∃ again, read name v.wire = .ok again ∧ again.wire = v.wire ∧
      (Text.sameCaseless name completionCause = false → again = v) := by
  refine ⟨v.plain, ValueKind.read_wire h hfloat, v.wire_plain, fun hother => ?_⟩
  refine ValueKind.plain_of_read h fun hcause => ?_
  rw [sameCaseless_of_kindOf hcause] at hother
  cases hother

example : (read "sensitivity-level" " 0.50 ").toOption.map HeaderValue.wire = some "0.5" ∧
    (read "COMPLETION-CAUSE" "1 \tno-match").toOption.map HeaderValue.wire = some "001 no-match" := by
  decide +kernel

/-- The two texts are read as the same value of the header, or neither is read as one. -/
def ReadAlike (name raw other : String) : Prop :=
  ∀ v, read name raw = .ok v ↔ read name other = .ok v

theorem readAlike_pads {name raw padded : String}
    (hkind : kindOf name = .integer ∨ kindOf name = .boolean ∨ kindOf name = .channelId)
    (h : Text.Pads raw padded) : ReadAlike name padded raw := by
  intro v
  rw [read, read]
  rcases hkind with hkind | hkind | hkind
  · rw [hkind]
    exact ValueKind.readInteger_pads h v
  · rw [hkind]
    exact ValueKind.readBoolean_pads h v
  · rw [hkind, ValueKind.read_channelId_eq_ok_iff, ValueKind.read_channelId_eq_ok_iff]
    simp only [ChannelId.parse_pads h]

/-- Texts that name the same channel, or none, are read alike. -/
theorem readAlike_of_parse {name raw other : String} (hkind : kindOf name = .channelId)
    (h : ∀ id, ChannelId.parse raw = .ok id ↔ ChannelId.parse other = .ok id) :
    ReadAlike name raw other := by
  intro v
  rw [read, read, hkind, ValueKind.read_channelId_eq_ok_iff, ValueKind.read_channelId_eq_ok_iff]
  simp only [h]

/-- Whatever is read as the value of a header, in whatever case its name is, is written so that it is
read again, and written the same again; if it is no cause, it is the same value.  Blanks around an
integer, a truth value, the name of a channel or one of the two tokens of such a name do not matter, nor
does the case of a truth value or of a resource type.  Every number of 64 bits is read without loss, and
no larger one is read. -/
theorem read_canonical (name : String) :
    (∀ other, Text.sameCaseless other name = true → ∀ raw, read other raw = read name raw) ∧
    (∀ raw v, read name raw = .ok v → (∀ x, v = .float x → PrintsBack x) →
      ∃ again, read name v.wire = .ok again ∧ again.wire = v.wire ∧
        (Text.sameCaseless name completionCause = false → again = v)) ∧
    (kindOf name = .integer ∨ kindOf name = .boolean ∨ kindOf name = .channelId →
      ∀ raw padded, Text.Pads raw padded → ReadAlike name padded raw) ∧
    (kindOf name = .channelId →
      (∀ left right left' right', Text.Pads left left' → Text.Pads right right' →
        ReadAlike name (left' ++ "@" ++ right') (left ++ "@" ++ right)) ∧
      ∀ left right right', Text.sameCaseless right' right = true →
        ReadAlike name (left ++ "@" ++ right') (left ++ "@" ++ right)) ∧
    (kindOf name = .boolean →
      ∀ raw other, Text.sameCaseless other raw = true → ReadAlike name other raw) ∧
    (kindOf name = .integer → ∀ width n, read name (Natural.padded width n) =
      if n ≤ Natural.max64 then .ok (.integer n)
      else .error (.integerFault (Natural.padded width n) .tooLarge)) := by
  refine ⟨fun other hname => read_congr hname, fun raw v => read_again,
    fun hkind raw padded => readAlike_pads hkind, fun hkind => ⟨?_, ?_⟩, ?_, ?_⟩
  · intro left right left' right' hleft hright
    exact readAlike_of_parse hkind (ChannelId.parse_pads_tokens hleft hright)
  · intro left right right' hsame
    exact readAlike_of_parse hkind (ChannelId.parse_caseless hsame)
  · intro hkind raw other hsame v
    rw [read, read, hkind]
    exact ValueKind.readBoolean_caseless hsame v
  · intro hkind width n
    rw [read, hkind]
    exact ValueKind.readInteger_padded width n

end Catalogue

end MediaControl
