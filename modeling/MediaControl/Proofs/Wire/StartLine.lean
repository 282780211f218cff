import MediaControl.Proofs.Number.Written
import MediaControl.Proofs.Vocabulary
import MediaControl.Wire.StartLine

/-!
# Start lines that were written

A start line is written as words with single spaces between them, and read as words.  What was
written is read back, as long as its numbers keep to their bounds: 64 bits for an id and for the
length, three digits for a status.

Main statements: `read_line` and `read_line_of_long`.
-/

set_option autoImplicit false

namespace MediaControl.Wire

open MediaControl.Text

theorem isWord_protocolVersion : IsWord protocolVersion := by decide

theorem isWord_text (n : Nat) : IsWord (Natural.text n) where
  ne_empty h := Natural.digits_ne_nil n (by simpa [Natural.text] using congrArg String.toList h)
  isBlank_eq_false c hc :=
    isBlank_eq_false_of_isDigit (Natural.isDigit_of_mem_digits (by simpa [Natural.text] using hc))

theorem isWord_status (s : Status) : IsWord s.text where
  ne_empty h := by
    have hnil := congrArg String.toList h
    simp only [Status.text, Natural.padded, String.toList_ofList] at hnil
    exact Natural.digits_ne_nil s.code (List.append_eq_nil_iff.mp hnil).2
  isBlank_eq_false c hc := isBlank_eq_false_of_isDigit (Natural.isDigit_of_mem_padded hc)

namespace StartLine

/-- The numbers of a start line keep to their bounds. -/
def IsBounded : StartLine → Prop
  | request _ id => id ≤ Natural.max64
  | response status id _ => status.code ≤ 999 ∧ id ≤ Natural.max64
  | event _ id _ => id ≤ Natural.max64

instance (s : StartLine) : Decidable s.IsBounded := by
  cases s <;> unfold IsBounded <;> infer_instance

/-- The words behind version and length. -/
def tailWords : StartLine → List String
  | request method id => [method.wire, Natural.text id]
  | response status id state => [status.text, Natural.text id, state.wire]
  | event name id state => [name.wire, Natural.text id, state.wire]

/-- A start line as it is written, behind the given length. -/
def line (s : StartLine) (length : Nat) : String :=
  protocolVersion ++ " " ++ Natural.text length ++ " " ++ s.tail

theorem words_tail (s : StartLine) : words s.tail = s.tailWords := by
  cases s with
  | request method id =>
      have hmethod : IsWord method.wire := Vocabulary.isWord_wire method
      rw [tail, String.append_assoc, words_append_space hmethod, words_eq_singleton (isWord_text id),
        tailWords]
  | response status id state =>
      have hstate : IsWord state.wire := Vocabulary.isWord_wire state
      simp only [tail, String.append_assoc]
      rw [words_append_space (isWord_status status), words_append_space (isWord_text id),
        words_eq_singleton hstate, tailWords]
  | event name id state =>
      have hname : IsWord name.wire := Vocabulary.isWord_wire name
      have hstate : IsWord state.wire := Vocabulary.isWord_wire state
      simp only [tail, String.append_assoc]
      rw [words_append_space hname, words_append_space (isWord_text id), words_eq_singleton hstate,
        tailWords]

theorem words_line (s : StartLine) (length : Nat) :
    words (s.line length) = protocolVersion :: Natural.text length :: s.tailWords := by
  simp only [line, String.append_assoc]
  rw [words_append_space isWord_protocolVersion, words_append_space (isWord_text length), words_tail]

/-- No line ends inside a start line. -/
theorem lineFeed_notMem_line (s : StartLine) (length : Nat) : '\n' ∉ (s.line length).toList := by
  have htail : '\n' ∉ s.tail.toList := by
    cases s with
    | request method id =>
        have hmethod : IsWord method.wire := Vocabulary.isWord_wire method
        simp [tail, hmethod.lineFeed_notMem, (isWord_text id).lineFeed_notMem]
    | response status id state =>
        have hstate : IsWord state.wire := Vocabulary.isWord_wire state
        simp [tail, (isWord_status status).lineFeed_notMem, (isWord_text id).lineFeed_notMem,
          hstate.lineFeed_notMem]
    | event name id state =>
        have hname : IsWord name.wire := Vocabulary.isWord_wire name
        have hstate : IsWord state.wire := Vocabulary.isWord_wire state
        simp [tail, hname.lineFeed_notMem, (isWord_text id).lineFeed_notMem, hstate.lineFeed_notMem]
  simp [line, isWord_protocolVersion.lineFeed_notMem, (isWord_text length).lineFeed_notMem, htail]

theorem readId_text (line : String) (id : Nat) :
    readId line (Natural.text id) =
      if id ≤ Natural.max64 then .ok id else .error (.startLine line none) := by
  rw [readId, Natural.read_text]
  by_cases h : id ≤ Natural.max64
  · rw [if_pos h, if_pos h]
  · rw [if_neg h, if_neg h]

theorem readTerm_wire {α : Type} [Vocabulary α] [LawfulVocabulary α] (line : String) (term : α) :
    readTerm line (Vocabulary.wire term) = .ok term := by
  rw [readTerm, Vocabulary.ofWire_wire]

theorem isStatusWord_text {s : Status} (h : s.code ≤ 999) : isStatusWord s.text = true := by
  have hlength : s.text.toList.length = 3 := Natural.length_padded (by decide) (by
    show s.code < 1000
    omega)
  rw [isStatusWord, hlength, Bool.and_eq_true]
  exact ⟨rfl, List.all_eq_true.mpr fun c => Natural.isDigit_of_mem_padded⟩

theorem readId_status (line : String) {s : Status} (h : s.code ≤ 999) :
    readId line s.text = .ok s.code := by
  have hbound : s.code ≤ Natural.max64 := Nat.le_trans h (by decide)
  rw [readId, Status.text, Natural.read_padded, if_pos hbound]

theorem isStatusWord_event (name : EventName) : isStatusWord name.wire = false := by
  cases name <;> rfl

theorem readTail_tailWords (line : String) {s : StartLine} (h : s.IsBounded) :
    readTail line s.tailWords = .ok s := by
  cases s with
  | request method id =>
      have hmethod : readTerm line method.wire = .ok method := readTerm_wire line method
      have hid : id ≤ Natural.max64 := h
      simp only [tailWords, readTail, hmethod, readId_text, if_pos hid]
      rfl
  | response status id state =>
      have hstate : readTerm line state.wire = .ok state := readTerm_wire line state
      obtain ⟨hstatus, hid⟩ := h
      simp only [tailWords, readTail, isStatusWord_text hstatus, if_true, readId_status line hstatus,
        readId_text, if_pos hid, hstate]
      rfl
  | event name id state =>
      have hname : readTerm line name.wire = .ok name := readTerm_wire line name
      have hstate : readTerm line state.wire = .ok state := readTerm_wire line state
      have hid : id ≤ Natural.max64 := h
      simp only [tailWords, readTail, isStatusWord_event, Bool.false_eq_true, if_false, hname,
        readId_text, if_pos hid, hstate]
      rfl

/-- A start line within its bounds is read back. -/
theorem read_line {s : StartLine} {length : Nat} (hlength : length ≤ Natural.max64)
    (h : s.IsBounded) : read (s.line length) = .ok s := by
  have hid : readId (s.line length) (Natural.text length) = .ok length := by
    rw [readId_text, if_pos hlength]
  simp only [read, words_line, ne_eq, not_true_eq_false, if_false, hid]
  exact readTail_tailWords _ h

/-- A length of more than 64 bits is refused. -/
theorem read_line_of_long {s : StartLine} {length : Nat} (hlength : Natural.max64 < length) :
    read (s.line length) = .error (.startLine (s.line length) none) := by
  have hid : readId (s.line length) (Natural.text length) =
      .error (.startLine (s.line length) none) := by
    rw [readId_text, if_neg (by omega)]
  simp only [read, words_line, ne_eq, not_true_eq_false, if_false, hid]
  rfl

end StartLine

end MediaControl.Wire
