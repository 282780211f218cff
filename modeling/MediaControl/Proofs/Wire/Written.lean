import MediaControl.Proofs.Wire.Head
import MediaControl.Proofs.Wire.Length

/-!
# Messages that were written

The writer and the reader of messages meet at the lines of a head: the writer's bytes are the text of
those lines and the body, and the reader finds the lines again and makes the same head of them.

Whatever the names of its headers are, the lines of a message are read as headers; those that give a
length are taken for the length of the body, the last one before all others.

Main statements: `encode_eq` and `length_encode` (what is written, and how long it says it is),
`read_headText_of_lineSafe` (what is read of any head) and `read_headText` (the head is read back).
-/

set_option autoImplicit false

namespace MediaControl

open MediaControl.Text MediaControl.Wire

namespace Message

/-- The message as its bytes say it: its headers are what their lines say. -/
def plain (m : Message) : Message := m.withHeaders (m.headers.map Header.plain)

/-- The message comes out of its bytes as it went in: the numbers of its start line keep to their
bounds, every header is one that a line can carry, and so is the type of its body, which no header
gives as well. -/
structure WireSafe (m : Message) : Prop where
  isBounded : m.start.IsBounded
  headers : ∀ h ∈ m.headers, h.WireSafe
  trim_type : ∀ c, m.content = some c → trim c.type = c.type
  lineFeed_notMem_type : ∀ c, m.content = some c → '\n' ∉ c.type.toList
  not_contentType : ∀ c, m.content = some c →
    ∀ h ∈ m.headers, h.hasName Catalogue.contentType = false

/-- The names and texts of the message come out of its lines as they went in, and the numbers of its
start line keep to their bounds.  Its headers may have any names, those of a length and of a type
included. -/
structure LineSafe (m : Message) : Prop where
  isBounded : m.start.IsBounded
  headers : ∀ h ∈ m.headers, h.LineSafe
  trim_type : ∀ c, m.content = some c → trim c.type = c.type
  lineFeed_notMem_type : ∀ c, m.content = some c → '\n' ∉ c.type.toList

theorem WireSafe.lineSafe {m : Message} (safe : m.WireSafe) : m.LineSafe where
  isBounded := safe.isBounded
  headers := fun h hh => (safe.headers h hh).lineSafe
  trim_type := safe.trim_type
  lineFeed_notMem_type := safe.lineFeed_notMem_type

/-! ## The writer's lines -/

/-- The header line that gives the type of a body. -/
def typeHeader (c : Content) : Header := .ofText Catalogue.contentType c.type

/-- The header line that gives the length of a body. -/
def lengthHeader (c : Content) : Header :=
  .ofText Catalogue.contentLength (Natural.text c.body.length)

/-- The header lines that announce a body. -/
def bodyHeaders : Option Content → Headers
  | none => []
  | some c => [typeHeader c, lengthHeader c]

/-- The lines that announce a body. -/
def bodyLines : Option Content → List String
  | none => []
  | some c => [(typeHeader c).line, Catalogue.contentLength ++ ":" ++ Natural.text c.body.length]

/-- The lines of a message that says of itself that it has the given length. -/
def headLines (m : Message) (length : Nat) : List String :=
  m.startLine length :: (m.headers.map Header.line ++ bodyLines m.content)

/-- The length that a message says of itself. -/
def length (m : Message) : Nat := messageLength m.otherLength

/-- The bytes of a message before its body. -/
def front (m : Message) : Bytes := Utf8.encode (Head.text (m.headLines m.length))

theorem encode_eq (m : Message) : m.encode = m.front ++ bodyBytes m.content := by
  have hcontent : contentLines m.content = (bodyLines m.content).flatMap lineBytes := by
    cases m.content with
    | none => rfl
    | some c => simp [contentLines, bodyLines, typeHeader, Header.line, Header.ofText]
  rw [front, Head.encode_text, encode, rest, headLines, List.flatMap_cons, List.flatMap_append,
    hcontent, headerBytes, List.flatMap_map, length]
  simp only [List.append_assoc]

/-- The text of a number has as many bytes as the number has digits. -/
theorem length_encode_text (n : Nat) : (Utf8.encode (Natural.text n)).length = digitCount n := by
  have hone : ∀ c ∈ Natural.digits n, (String.utf8EncodeChar c).length = 1 := by
    intro c hc
    have hdigit := Natural.isDigit_of_mem_digits hc
    simp only [Char.isDigit, Bool.and_eq_true, decide_eq_true_eq] at hdigit
    rw [String.length_utf8EncodeChar, Char.utf8Size_eq_one_iff]
    exact UInt32.le_trans hdigit.2 (by decide)
  rw [Utf8.encode, Natural.text, String.toList_ofList, List.length_flatMap,
    List.map_congr_left hone, digitCount]
  simp

/-- A message says of itself how long it is. -/
theorem length_encode (m : Message) : m.encode.length = m.length := by
  have hspaces : Utf8.encode "  " = Utf8.encode " " ++ Utf8.encode " " := by decide
  have hother : m.otherLength + digitCount m.length = m.encode.length := by
    rw [encode, ← length]
    simp only [otherLength, startLine, lineBytes, Utf8.encode_append, hspaces, List.length_append,
      length_encode_text]
    omega
  rw [← hother, length, ← messageLength_eq]

/-! ## The reader's head -/

/-- What the reader makes of the head of a message. -/
def head (m : Message) : Head where
  start := m.start
  headers := m.headers.map Header.plain
  contentType := m.content.map Content.type
  contentLength := m.content.map fun c => c.body.length

theorem bodyLength_head (m : Message) : m.head.bodyLength = (bodyBytes m.content).length := by
  rw [Head.bodyLength, head]
  cases m.content <;> rfl

theorem message_head (m : Message) : m.head.message (bodyBytes m.content) = m.plain := by
  cases m with
  | request r => cases r with | mk method id headers content => cases content <;> rfl
  | response r => cases r with | mk id status state headers content => cases content <;> rfl
  | event e => cases e with | mk name id state headers content => cases content <;> rfl

end Message

/-! ## Lines that give a length -/

namespace Headers

theorem mem_of_get? {hs : Headers} {name : String} {h : Header}
    (hget : Headers.get? hs name = some h) : h ∈ hs :=
  List.mem_of_find?_eq_some hget

theorem hasName_of_get? {hs : Headers} {name : String} {h : Header}
    (hget : Headers.get? hs name = some h) : h.hasName name = true := by
  have hfound := List.find?_some hget
  exact hfound

/-- The headers whose lines are read as headers, as these lines say them. -/
def shown (hs : Headers) : Headers :=
  (hs.filter fun h => !h.hasName Catalogue.contentLength).map Header.plain

/-- The length of the body that header lines give, behind lines that gave one before or none: each
must be a number, and the last one counts. -/
def statedLength (before : Option Nat) : Headers → Except Fault (Option Nat)
  | [] => .ok before
  | h :: hs =>
    if h.hasName Catalogue.contentLength then
      match Natural.read Natural.max64 h.raw with
      | .ok n => statedLength (some n) hs
      | .error fault => .error (.contentLength h.raw fault)
    else statedLength before hs

theorem shown_append (hs others : Headers) :
    Headers.shown (hs ++ others) = Headers.shown hs ++ Headers.shown others := by
  simp [shown]

theorem statedLength_append (before : Option Nat) (hs others : Headers) :
    Headers.statedLength before (hs ++ others) =
      (Headers.statedLength before hs).bind fun length => Headers.statedLength length others := by
  induction hs generalizing before with
  | nil => rfl
  | cons h hs ih =>
      rw [List.cons_append, statedLength, statedLength]
      split
      · split
        · exact ih _
        · rfl
      · exact ih before

theorem shown_of_wireSafe {hs : Headers} (safe : ∀ h ∈ hs, h.WireSafe) :
    Headers.shown hs = hs.map Header.plain := by
  rw [shown, List.filter_eq_self.mpr]
  intro h hh
  rw [(safe h hh).not_contentLength]
  rfl

theorem statedLength_of_wireSafe {hs : Headers} (safe : ∀ h ∈ hs, h.WireSafe)
    (before : Option Nat) : Headers.statedLength before hs = .ok before := by
  induction hs with
  | nil => rfl
  | cons h hs ih =>
      have hname := (safe h (List.mem_cons_self ..)).not_contentLength
      rw [statedLength, hname, if_neg Bool.false_ne_true]
      exact ih fun other hother => safe other (List.mem_cons_of_mem _ hother)

/-- Lines that are read as those of headers are read as the headers that are shown and the length that
is stated. -/
theorem readLines_eq {lines : List String} {hs : Headers}
    (h : List.Forall₂ (fun line h => Head.readLine line = Head.ofHeader h) lines hs)
    (before : List Header) (length : Option Nat) :
    Head.readLines before length lines =
      (Headers.statedLength length hs).map fun stated =>
        (before.reverse ++ Headers.shown hs, stated) := by
  induction h generalizing before length with
  | nil => simp [Head.readLines, statedLength, shown, Except.map]
  | @cons line h lines hs hline _ ih =>
      rw [Head.readLines, hline, Head.ofHeader, statedLength]
      by_cases hname : h.hasName Catalogue.contentLength = true
      · have hshown : Headers.shown (h :: hs) = Headers.shown hs := by simp [shown, hname]
        rw [if_pos hname, if_pos hname, hshown]
        cases Natural.read Natural.max64 h.raw with
        | error fault => rfl
        | ok n => exact ih before (some n)
      · have hshown : Headers.shown (h :: hs) = h.plain :: Headers.shown hs := by
          simp [shown, hname]
        rw [if_neg hname, if_neg hname, hshown]
        simp only [ih]
        simp

theorem readLines_map_line {hs : Headers} (safe : ∀ h ∈ hs, h.LineSafe) (before : List Header)
    (length : Option Nat) :
    Head.readLines before length (hs.map Header.line) =
      (Headers.statedLength length hs).map fun stated =>
        (before.reverse ++ Headers.shown hs, stated) := by
  refine readLines_eq (List.forall₂_map_left_iff.mpr (List.forall₂_same.mpr fun h hh => ?_)) _ _
  exact Head.readLine_of_lineSafe (safe h hh)

end Headers

namespace Message

/-! ## The head of a message -/

/-- The headers that the lines of the message are read as, those that announce its body included. -/
def lineHeaders (m : Message) : Headers := m.headers ++ bodyHeaders m.content

theorem headLines_eq (m : Message) (length : Nat) :
    m.headLines length = m.startLine length :: m.lineHeaders.map Header.line := by
  have hbody : bodyLines m.content = (bodyHeaders m.content).map Header.line := by
    cases m.content <;> rfl
  rw [headLines, lineHeaders, List.map_append, hbody]

/-- The type of a body goes into a line as a header does. -/
theorem LineSafe.typeHeader {m : Message} (safe : m.LineSafe) {c : Content}
    (hc : m.content = some c) : (typeHeader c).WireSafe where
  name_ne_empty := show Catalogue.contentType ≠ "" by decide
  trim_name := show trim Catalogue.contentType = Catalogue.contentType by decide
  colon_notMem_name := show ':' ∉ Catalogue.contentType.toList by decide
  lineFeed_notMem_name := show '\n' ∉ Catalogue.contentType.toList by decide
  not_contentLength :=
    show sameCaseless Catalogue.contentType Catalogue.contentLength = false by decide
  trim_raw := safe.trim_type c hc
  lineFeed_notMem_raw := safe.lineFeed_notMem_type c hc

/-- Every line behind the start line is that of a header. -/
theorem LineSafe.lineHeaders {m : Message} (safe : m.LineSafe) :
    ∀ h ∈ m.lineHeaders, h.LineSafe := by
  intro h hh
  rw [Message.lineHeaders, List.mem_append] at hh
  rcases hh with hh | hh
  · exact safe.headers h hh
  · cases hcontent : m.content with
    | none => simp [hcontent, bodyHeaders] at hh
    | some c =>
        rw [hcontent, bodyHeaders, List.mem_cons, List.mem_singleton] at hh
        rcases hh with rfl | rfl
        · exact (safe.typeHeader hcontent).lineSafe
        · exact Head.lineSafe_contentLength _

/-- The lines of a message are lines. -/
theorem isLine_of_mem_headLines {m : Message} (safe : m.LineSafe) (length : Nat) :
    ∀ line ∈ m.headLines length, IsLine line := by
  intro line hline
  rw [headLines_eq, List.mem_cons] at hline
  rcases hline with rfl | hline
  · refine ⟨fun hempty => ?_, StartLine.lineFeed_notMem_line m.start length⟩
    have hversion := congrArg String.toList hempty
    simp [startLine, protocolVersion] at hversion
  · obtain ⟨h, hh, rfl⟩ := List.mem_map.mp hline
    have hsafe := safe.lineHeaders h hh
    refine ⟨fun hempty => ?_, ?_⟩
    · have hchars := congrArg String.toList hempty
      simp [Header.line] at hchars
    · simp [Header.line, hsafe.lineFeed_notMem_name, hsafe.lineFeed_notMem_raw]

/-- What is read of the head of a message: its headers without the lengths among them, and the length
that is stated last, if all of them are numbers. -/
theorem read_headText_of_lineSafe {m : Message} (safe : m.LineSafe) {length : Nat}
    (hlength : length ≤ Natural.max64) :
    Head.read (Head.text (m.headLines length)) =
      (Headers.statedLength none m.lineHeaders).bind fun stated =>
        Head.settleContent m.start (Headers.shown m.lineHeaders) stated := by
  have hstart : StartLine.read (m.startLine length) = .ok m.start :=
    StartLine.read_line hlength safe.isBounded
  rw [Head.read, Head.lines_text (isLine_of_mem_headLines safe length), headLines_eq]
  simp only [hstart, Headers.readLines_map_line safe.lineHeaders]
  cases Headers.statedLength none m.lineHeaders with
  | error fault => rfl
  | ok stated => rfl

/-- The lines that announce a body give its length. -/
theorem statedLength_bodyHeaders (c : Content) (h : c.body.length ≤ Natural.max64)
    (before : Option Nat) :
    Headers.statedLength before (bodyHeaders (some c)) = .ok (some c.body.length) := by
  have htype : (typeHeader c).hasName Catalogue.contentLength = false :=
    show sameCaseless Catalogue.contentType Catalogue.contentLength = false by decide
  have hself : (lengthHeader c).hasName Catalogue.contentLength = true := sameCaseless_refl _
  have hread : Natural.read Natural.max64 (lengthHeader c).raw = .ok c.body.length :=
    (Natural.read_text Natural.max64 c.body.length).trans (if_pos h)
  simp only [bodyHeaders, Headers.statedLength, htype, hself, hread, Bool.false_eq_true, if_false,
    if_true]

/-- Of the lines that announce a body the type is shown. -/
theorem shown_bodyHeaders (c : Content) :
    Headers.shown (bodyHeaders (some c)) = [typeHeader c] := by
  have htype : (typeHeader c).hasName Catalogue.contentLength = false :=
    show sameCaseless Catalogue.contentType Catalogue.contentLength = false by decide
  have hself : (lengthHeader c).hasName Catalogue.contentLength = true := sameCaseless_refl _
  simp only [Headers.shown, bodyHeaders, List.filter_cons, htype, hself, Bool.not_true,
    Bool.not_false, if_true, Bool.false_eq_true, if_false, List.filter_nil, List.map_cons,
    List.map_nil]
  rfl

theorem get?_append_typeHeader {hs : Headers} (c : Content)
    (h : ∀ other ∈ hs, other.hasName Catalogue.contentType = false) :
    Headers.get? (hs ++ [typeHeader c]) Catalogue.contentType = some (typeHeader c) := by
  have hnone : hs.find? (fun other => other.hasName Catalogue.contentType) = none :=
    List.find?_eq_none.mpr fun other hother => by simp [h other hother]
  have htype : (typeHeader c).hasName Catalogue.contentType = true := sameCaseless_refl _
  rw [Headers.get?, List.find?_append, hnone, Option.none_or]
  simp [htype]

theorem erase_append_typeHeader {hs : Headers} (c : Content)
    (h : ∀ other ∈ hs, other.hasName Catalogue.contentType = false) :
    Headers.erase (hs ++ [typeHeader c]) Catalogue.contentType = hs := by
  have htype : (typeHeader c).hasName Catalogue.contentType = true := sameCaseless_refl _
  rw [Headers.erase, List.eraseP_append_right _ fun other hother => by simp [h other hother]]
  simp [htype]

/-- The head of a message is read back. -/
theorem read_headText {m : Message} (safe : m.WireSafe) {length : Nat}
    (hlength : length ≤ Natural.max64) (hbody : (bodyBytes m.content).length ≤ Natural.max64) :
    Head.read (Head.text (m.headLines length)) = .ok m.head := by
  have hnone : ∀ before, Headers.statedLength before m.headers = .ok before :=
    Headers.statedLength_of_wireSafe safe.headers
  rw [read_headText_of_lineSafe safe.lineSafe hlength, lineHeaders, Headers.statedLength_append,
    hnone, Headers.shown_append, Headers.shown_of_wireSafe safe.headers]
  simp only [Except.bind]
  cases hcontent : m.content with
  | none =>
      simp [bodyHeaders, Headers.statedLength, Headers.shown, Head.settleContent, head, hcontent]
  | some c =>
      have hsized : c.body.length ≤ Natural.max64 := by simpa [hcontent, bodyBytes] using hbody
      have hother : ∀ h ∈ m.headers.map Header.plain, h.hasName Catalogue.contentType = false := by
        intro h hh
        obtain ⟨other, hother, rfl⟩ := List.mem_map.mp hh
        exact safe.not_contentType c hcontent other hother
      rw [statedLength_bodyHeaders c hsized, shown_bodyHeaders]
      simp only [Head.settleContent, get?_append_typeHeader c hother,
        erase_append_typeHeader c hother, head, hcontent]
      rfl

/-- A length that does not fit into 64 bits makes the head unreadable. -/
theorem read_headText_of_long {m : Message} (safe : m.LineSafe) {length : Nat}
    (hlength : Natural.max64 < length) :
    Head.read (Head.text (m.headLines length)) = .error (.startLine (m.startLine length) none) := by
  have hstart : StartLine.read (m.startLine length) = .error (.startLine (m.startLine length) none) :=
    StartLine.read_line_of_long hlength
  rw [Head.read, Head.lines_text (isLine_of_mem_headLines safe length), headLines]
  simp only [hstart]
  rfl

end Message

end MediaControl
