import MediaControl.Proofs.Wire.Look

/-!
# The end of a stream (SPEC_FULL §4.1)

When a stream ends, white space that is left of it is no message and no fault, and whatever else is left
is a message or a fault.  But line ends are passed over only at the front: an empty line behind a blank
ends a head, and a head of white space is refused, so that white space with an empty line in it is a
fault.

Main statements: `headLength_eq_none_iff` (what has no end of a head in it),
`HeadText.Says.exists_not_space` (no head is white space) and `decodeEnd_clean_iff`.
-/

set_option autoImplicit false

namespace MediaControl.Wire

/-! ## Empty lines -/

/-- There is an empty line among the bytes: a line feed behind another one, or behind another one and a
carriage return. -/
def HasEmptyLine (bytes : Bytes) : Prop := [10, 10] <:+: bytes ∨ [10, 13, 10] <:+: bytes

instance (bytes : Bytes) : Decidable (HasEmptyLine bytes) := inferInstanceAs (Decidable (_ ∨ _))

variable {b : UInt8} {bytes : Bytes}

theorem hasEmptyLine_cons (hb : b ≠ 10) : HasEmptyLine (b :: bytes) ↔ HasEmptyLine bytes := by
  have hpass : ∀ rest : Bytes, ¬ 10 :: rest <+: b :: bytes := fun rest hfront =>
    hb (List.cons_prefix_cons.mp hfront).1.symm
  rw [HasEmptyLine, HasEmptyLine, List.infix_cons_iff, List.infix_cons_iff, or_iff_right (hpass _),
    or_iff_right (hpass _)]

/-- Behind a line feed the line is empty, or it is another line that is. -/
theorem hasEmptyLine_lineFeed : HasEmptyLine (10 :: bytes) ↔
    ([10] <+: bytes ∨ [13, 10] <+: bytes) ∨ HasEmptyLine bytes := by
  show _ ↔ _ ∨ ([10, 10] <:+: bytes ∨ [10, 13, 10] <:+: bytes)
  rw [HasEmptyLine, List.infix_cons_iff, List.infix_cons_iff, List.cons_prefix_cons,
    List.cons_prefix_cons, or_or_or_comm]
  simp only [true_and]

theorem hasEmptyLine_lineFeed_cons (hb : isLineEnd b = false) :
    HasEmptyLine (10 :: b :: bytes) ↔ HasEmptyLine bytes := by
  obtain ⟨hreturn, hfeed⟩ : b ≠ 13 ∧ b ≠ 10 := by simpa [isLineEnd] using hb
  rw [hasEmptyLine_lineFeed, hasEmptyLine_cons hfeed]
  simp [List.cons_prefix_cons, hreturn.symm, hfeed.symm]

theorem hasEmptyLine_lineFeed_return_cons (hb : b ≠ 10) :
    HasEmptyLine (10 :: 13 :: b :: bytes) ↔ HasEmptyLine bytes := by
  rw [hasEmptyLine_lineFeed, hasEmptyLine_cons (by decide), hasEmptyLine_cons hb]
  simp [List.cons_prefix_cons, hb.symm]

/-- The bytes that the line under the eye has so far, with the line feed before it. -/
def LineState.behind : LineState → Bytes
  | .start => [10]
  | .return => [10, 13]
  | .inside => []

/-- The end of a head is not found exactly where no line is empty. -/
theorem headLengthFrom_eq_none_iff (seen : Nat) (state : LineState) (bytes : Bytes) :
    headLengthFrom seen state bytes = none ↔ ¬ HasEmptyLine (state.behind ++ bytes) := by
  induction bytes generalizing seen state with
  | nil => cases state <;> exact iff_of_true rfl (by decide)
  | cons b rest ih =>
      by_cases hb : b = 10
      · subst hb
        rw [headLengthFrom_lineFeed]
        cases state with
        | inside =>
            rw [if_pos rfl, ih]
            rfl
        | start => exact iff_of_false (by simp) (not_not_intro (.inl ⟨[], rest, rfl⟩))
        | «return» => exact iff_of_false (by simp) (not_not_intro (.inr ⟨[], rest, rfl⟩))
      · rw [headLengthFrom_cons hb, ih, not_iff_not]
        cases state with
        | inside =>
            have hafter : LineState.after .inside b = .inside := by simp [LineState.after]
            rw [hafter]
            exact (hasEmptyLine_cons hb).symm
        | start =>
            by_cases hreturn : b = 13
            · subst hreturn
              exact Iff.rfl
            · have hafter : LineState.after .start b = .inside := by simp [LineState.after, hreturn]
              rw [hafter]
              exact (hasEmptyLine_lineFeed_cons (by simp [isLineEnd, hb, hreturn])).symm
        | «return» =>
            have hafter : LineState.after .return b = .inside := by simp [LineState.after]
            rw [hafter]
            exact (hasEmptyLine_lineFeed_return_cons hb).symm

/-- Bytes that begin with no line end have no end of a head exactly if no line of them is empty. -/
theorem headLength_eq_none_iff (hfront : ∀ b ∈ bytes.head?, isLineEnd b = false) :
    headLength bytes = none ↔ ¬ HasEmptyLine bytes := by
  rw [headLength, headLengthFrom_eq_none_iff, not_iff_not]
  cases bytes with
  | nil => exact iff_of_false (by decide) (by decide)
  | cons b rest =>
      have hb : isLineEnd b = false := hfront b rfl
      have hfeed : b ≠ 10 := by
        rintro rfl
        cases hb
      rw [hasEmptyLine_cons hfeed]
      exact hasEmptyLine_lineFeed_cons hb

/-! ## Heads of white space -/

theorem StartLine.Spells.protocolVersion_mem {spoken : List String} {start : StartLine}
    (h : Spells spoken start) : protocolVersion ∈ spoken := by
  cases h <;> exact List.mem_cons_self

theorem Head.mem_of_mem_dropReturn {line : List Char} {c : Char} (h : c ∈ dropReturn line) :
    c ∈ line := by
  unfold dropReturn at h
  split at h
  · exact (List.dropLast_sublist line).subset h
  · exact h

theorem HeadText.mem_text_of_mem_startLine {t : HeadText} {c : Char} (h : c ∈ t.startLine.toList) :
    c ∈ t.text.toList := by
  rw [HeadText.startLine, String.toList_ofList] at h
  rw [HeadText.text, String.toList_ofList, feedChars_cons, List.append_assoc]
  exact List.mem_append_left _ (Head.mem_of_mem_dropReturn h)

/-- A head that says something is not all white space. -/
theorem HeadText.Says.exists_not_space {t : HeadText} {head : Head} {fields : Headers}
    (h : t.Says head fields) : ∃ b ∈ t.bytes, isSpace b = false := by
  have hversion : 'M' ∈ t.startLine.toList :=
    Text.mem_of_mem_words h.parses.spells.protocolVersion_mem (by decide)
  have hbyte : 77 ∈ t.bytes :=
    List.mem_flatMap.mpr ⟨'M', HeadText.mem_text_of_mem_startLine hversion, by decide⟩
  exact ⟨77, hbyte, by decide⟩

/-! ## The end -/

theorem isSpace_of_isLineEnd (hb : isLineEnd b = true) : isSpace b = true := by
  rcases (by simpa [isLineEnd] using hb : b = 13 ∨ b = 10) with rfl | rfl <;> decide

/-- Line ends are white space, whether or not they are passed over. -/
theorem all_isSpace_dropWhile (buffer : Bytes) :
    (buffer.dropWhile isLineEnd).all isSpace = true ↔ ∀ b ∈ buffer, isSpace b = true := by
  rw [List.all_eq_true]
  conv_rhs => rw [← List.takeWhile_append_dropWhile (p := isLineEnd) (l := buffer)]
  rw [List.forall_mem_append]
  exact (and_iff_right fun b hb => isSpace_of_isLineEnd (List.mem_takeWhile_imp hb)).symm

/-- What may come of the end of a stream that has left these bytes: nothing, where they are white space
with no empty line behind the line ends at the front; and a message or a fault where they are not. -/
inductive Ended (buffer : Bytes) : Decoded → Prop
  | clean (hspace : ∀ b ∈ buffer, isSpace b = true)
      (hnone : ¬ HasEmptyLine (buffer.dropWhile isLineEnd)) : Ended buffer (.ok none, [])
  | message (m : Message) (rest : Bytes) (hother : ∃ b ∈ buffer, isSpace b = false) :
      Ended buffer (.ok (some m), rest)
  | refused (fault : Fault)
      (hunclean : (∃ b ∈ buffer, isSpace b = false) ∨ HasEmptyLine (buffer.dropWhile isLineEnd)) :
      Ended buffer (.error fault, buffer.dropWhile isLineEnd)

theorem exists_not_space_before {buffer arrived : Bytes} {t : HeadText} {head : Head}
    {fields : Headers} (hbuffer : buffer.dropWhile isLineEnd = t.bytes ++ arrived)
    (hsaid : t.Says head fields) : ∃ b ∈ buffer, isSpace b = false := by
  obtain ⟨b, hb, hother⟩ := hsaid.exists_not_space
  refine ⟨b, (List.dropWhile_sublist isLineEnd).subset ?_, hother⟩
  rw [hbuffer]
  exact List.mem_append_left _ hb

theorem ended_decodeEnd {limit : Nat} {buffer : Bytes} (hroom : buffer.length ≤ limit) :
    Ended buffer (decodeEnd limit buffer) := by
  have hfront := isLineEnd_head?_dropWhile buffer
  have hunclean : (buffer.dropWhile isLineEnd).all isSpace = false →
      ∃ b ∈ buffer, isSpace b = false := by
    intro hall
    by_contra hnone
    have hspace : ∀ b ∈ buffer, isSpace b = true := by simpa using hnone
    rw [(all_isSpace_dropWhile buffer).mpr hspace] at hall
    cases hall
  have hlook := look_decode limit buffer
  unfold decodeEnd
  generalize hdecode : decode limit buffer = decoded at hlook
  cases hlook with
  | headless hnone _ =>
      cases hall : (buffer.dropWhile isLineEnd).all isSpace with
      | true =>
          simp only [hall, if_true]
          exact .clean ((all_isSpace_dropWhile buffer).mp hall)
            ((headLength_eq_none_iff hfront).mp hnone)
      | false =>
          simp only [hall, Bool.false_eq_true, if_false]
          exact .refused _ (.inl (hunclean hall))
  | bodyless hbuffer hsaid _ _ =>
      have hother := exists_not_space_before hbuffer hsaid
      cases hall : (buffer.dropWhile isLineEnd).all isSpace with
      | true =>
          obtain ⟨b, hb, hnot⟩ := hother
          rw [(all_isSpace_dropWhile buffer).mp hall b hb] at hnot
          cases hnot
      | false =>
          simp only [hall, Bool.false_eq_true, if_false]
          exact .refused _ (.inl hother)
  | refused fault =>
      refine .refused fault (.inr ?_)
      -- without the end of a head there would be room for more
      by_contra hempty
      have hlength : (buffer.dropWhile isLineEnd).length ≤ limit :=
        Nat.le_trans (List.dropWhile_sublist isLineEnd).length_le hroom
      rw [decode_eq, (headLength_eq_none_iff hfront).mpr hempty] at hdecode
      simp only [if_neg (Nat.not_lt.mpr hlength)] at hdecode
      cases hdecode
  | taken hbuffer hsaid _ _ => exact .message _ _ (exists_not_space_before hbuffer hsaid)

/-- Where the limit has room for what is left of a stream, the stream ends cleanly exactly if that is
white space and no line of it is empty behind the line ends at the front; nothing is left then.
Otherwise the end brings a message or a framing error, and an error if all of it is white space. -/
theorem decodeEnd_clean_iff {limit : Nat} {buffer : Bytes} (hroom : buffer.length ≤ limit) :
    ((decodeEnd limit buffer).1 = .ok none ↔ (∀ b ∈ buffer, isSpace b = true) ∧
      ¬ HasEmptyLine (buffer.dropWhile isLineEnd)) ∧
    ((decodeEnd limit buffer).1 = .ok none → (decodeEnd limit buffer).2 = []) ∧
    ((decodeEnd limit buffer).1 ≠ .ok none →
      (∃ m, (decodeEnd limit buffer).1 = .ok (some m) ∧ ∃ b ∈ buffer, isSpace b = false) ∨
      ∃ fault, decodeEnd limit buffer = (.error fault, buffer.dropWhile isLineEnd) ∧
        (Error.framing fault).kind = .framing) := by
  have hended := ended_decodeEnd hroom
  generalize decodeEnd limit buffer = decoded at hended
  cases hended with
  | clean hspace hnone =>
      exact ⟨iff_of_true rfl ⟨hspace, hnone⟩, fun _ => rfl, fun hnot => absurd rfl hnot⟩
  | message m rest hother =>
      obtain ⟨b, hb, hnot⟩ := hother
      refine ⟨iff_of_false (fun h => by cases h) fun h => ?_, fun h => (by cases h),
        fun _ => .inl ⟨m, rfl, b, hb, hnot⟩⟩
      exact Bool.noConfusion ((h.1 b hb).symm.trans hnot)
  | refused fault hunclean =>
      refine ⟨iff_of_false (fun h => by cases h) fun h => ?_, fun h => (by cases h),
        fun _ => .inr ⟨fault, rfl, rfl⟩⟩
      rcases hunclean with ⟨b, hb, hnot⟩ | hempty
      · exact Bool.noConfusion ((h.1 b hb).symm.trans hnot)
      · exact h.2 hempty

/-- A blank behind line ends, and another line end: the stream ends cleanly. -/
theorem decodeEnd_clean_iff_spaced : ([13, 10, 32, 10] : Bytes).length ≤ 4 ∧
    decodeEnd 4 [13, 10, 32, 10] = (.ok none, []) := by
  have hroom : ([13, 10, 32, 10] : Bytes).length ≤ 4 := by decide
  obtain ⟨hclean, hrest, -⟩ := decodeEnd_clean_iff hroom
  have hnone := hclean.mpr ⟨List.all_eq_true.mp (by decide), by decide⟩
  exact ⟨hroom, Prod.ext hnone (hrest hnone)⟩

/-- A blank and two line ends are white space, and are refused: the blank is taken for a start line. -/
theorem white_space_refused : (∀ b ∈ ([32, 10, 10] : Bytes), isSpace b = true) ∧
    ([32, 10, 10] : Bytes).length ≤ defaultLimit ∧
    decodeEnd defaultLimit [32, 10, 10] = (.error (.startLine " " none), [32, 10, 10]) := by
  refine ⟨List.all_eq_true.mp (by decide), by decide, ?_⟩
  with_unfolding_all rfl

end MediaControl.Wire
