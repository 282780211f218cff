import MediaControl.Proofs.Wire.RoundTrip
import MediaControl.Proofs.Wire.Size

/-!
# Messages that are written again (SPEC_FULL §4.1)

The reader takes the first type of a body out of the headers and leaves any others there.  The writer
puts the type of the body behind the headers.  So a message that was read and is written again is read
as it was, unless a header with the name of a type was left in it: then that one is taken for the type
of the body, and the type of the body is left in its place.

Main statement: `reread_of_decodeMessage`.
-/

set_option autoImplicit false

namespace MediaControl

open MediaControl.Text MediaControl.Wire

namespace Message

/-- The message as it is read when it is written once more: where a body has a type and a header gives
one too, the two change places, and the header goes behind all others. -/
def reread (m : Message) : Message :=
  match m.content, Headers.get? m.headers Catalogue.contentType with
  | some c, some h =>
    (m.withHeaders (Headers.erase m.headers Catalogue.contentType ++ [typeHeader c])).withContent
      (some { c with type := h.raw })
  | _, _ => m

/-- A message without a body, or whose headers give no type, is read as it was. -/
theorem reread_eq_self {m : Message}
    (h : m.content = none ∨ Headers.get? m.headers Catalogue.contentType = none) : m.reread = m := by
  unfold reread
  split
  · rename_i c header hcontent hget
    rcases h with hnone | hnone
    · cases hcontent.symm.trans hnone
    · cases hget.symm.trans hnone
  · rfl

theorem reread_of_some {m : Message} {c : Content} {h : Header} (hcontent : m.content = some c)
    (hget : Headers.get? m.headers Catalogue.contentType = some h) :
    m.reread = (m.withHeaders (Headers.erase m.headers Catalogue.contentType ++
      [typeHeader c])).withContent (some { c with type := h.raw }) := by
  rw [reread, hcontent, hget]

/-! ## The lines of a message that was read -/

section

variable {m : Message} (h : m.FromWire)

include h

theorem FromWire.map_plain : m.headers.map Header.plain = m.headers :=
  (List.map_congr_left fun header hheader => (h.headers header hheader).2).trans (List.map_id _)

/-- The headers of what such a message becomes are made of their texts as well. -/
theorem FromWire.map_plain_reread : m.reread.headers.map Header.plain = m.reread.headers := by
  unfold reread
  split
  · have herased : (Headers.erase m.headers Catalogue.contentType).map Header.plain =
        Headers.erase m.headers Catalogue.contentType :=
      (List.map_congr_left fun other hother =>
        (h.headers other (List.mem_of_mem_eraseP hother)).2).trans (List.map_id _)
    rw [headers_withContent, headers_withHeaders, List.map_append, herased]
    rfl
  · exact h.map_plain

theorem FromWire.plain_reread : m.reread.plain = m.reread := by
  rw [plain, h.map_plain_reread, withHeaders_self]

/-- The headers that such a message shows when it is written again are its own, and the type of its
body behind them. -/
theorem FromWire.shown_lineHeaders :
    Headers.shown m.lineHeaders = m.headers ++ (m.content.map typeHeader).toList := by
  have hheaders : Headers.shown m.headers = m.headers :=
    (Headers.shown_of_wireSafe fun header hheader => (h.headers header hheader).1).trans h.map_plain
  rw [lineHeaders, Headers.shown_append, hheaders]
  cases m.content with
  | none => rfl
  | some c =>
      rw [shown_bodyHeaders]
      rfl

theorem FromWire.statedLength_lineHeaders :
    Headers.statedLength none m.lineHeaders = .ok (m.content.map fun c => c.body.length) := by
  rw [lineHeaders, Headers.statedLength_append,
    Headers.statedLength_of_wireSafe fun header hheader => (h.headers header hheader).1]
  cases hcontent : m.content with
  | none => rfl
  | some c => exact statedLength_bodyHeaders c (h.length_body_le c hcontent) none

/-- The head that is made of its lines is that of the message which it becomes. -/
theorem FromWire.settleContent_eq :
    Head.settleContent m.start (m.headers ++ (m.content.map typeHeader).toList)
      (m.content.map fun c => c.body.length) = .ok m.reread.head := by
  cases hcontent : m.content with
  | none =>
      rw [head, h.map_plain_reread, reread_eq_self (Or.inl hcontent), hcontent]
      simp [Head.settleContent]
  | some c =>
      simp only [Option.map_some, Option.toList_some, Head.settleContent]
      cases hget : Headers.get? m.headers Catalogue.contentType with
      | none =>
          have hother : ∀ other ∈ m.headers, other.hasName Catalogue.contentType = false :=
            fun other hother => Bool.eq_false_iff.mpr (List.find?_eq_none.mp hget other hother)
          rw [get?_append_typeHeader c hother, erase_append_typeHeader c hother, head,
            h.map_plain_reread, reread_eq_self (Or.inr hget), hcontent]
          rfl
      | some header =>
          have hmem := Headers.mem_of_get? hget
          have hname := Headers.hasName_of_get? hget
          have hfirst : Headers.get? (m.headers ++ [typeHeader c]) Catalogue.contentType =
              some header := by
            rw [Headers.get?, List.find?_append, ← Headers.get?, hget, Option.some_or]
          have hrest : Headers.erase (m.headers ++ [typeHeader c]) Catalogue.contentType =
              Headers.erase m.headers Catalogue.contentType ++ [typeHeader c] := by
            refine List.eraseP_append_left ?_ _ hmem
            exact hname
          rw [hfirst, hrest, head, h.map_plain_reread, reread_of_some hcontent hget]
          simp

/-- The head of such a message is read as that of the message which it becomes. -/
theorem FromWire.read_headText {length : Nat} (hlength : length ≤ Natural.max64) :
    Head.read (Head.text (m.headLines length)) = .ok m.reread.head := by
  rw [read_headText_of_lineSafe h.lineSafe hlength, h.statedLength_lineHeaders,
    h.shown_lineHeaders]
  exact h.settleContent_eq

end

theorem bodyBytes_reread (m : Message) : bodyBytes m.reread.content = bodyBytes m.content := by
  unfold reread
  split
  · rename_i c header hcontent hget
    rw [content_withContent, hcontent]
    rfl
  · rfl

end Message

namespace Wire

/-! ## Reading what was written again -/

/-- What comes of the bytes of a single message. -/
theorem decode_of_decodeMessage {bytes : Bytes} {m : Message} (h : decodeMessage bytes = .ok m) :
    ∃ rest, decode Natural.max64 bytes = (.ok (some m), rest) := by
  unfold decodeMessage at h
  split at h
  · rename_i taken htaken
    obtain rfl := Except.ok.inj h
    unfold decodeEnd at htaken
    split at htaken
    · split at htaken <;> cases htaken
    · exact ⟨_, Prod.ext htaken rfl⟩
  · cases h
  · cases h

theorem decodeMessage_of_decode {bytes rest : Bytes} {m : Message}
    (h : decode Natural.max64 bytes = (.ok (some m), rest)) : decodeMessage bytes = .ok m := by
  rw [decodeMessage, decodeEnd, h]

/-- A message that was read is read, when it is written again, as what it becomes. -/
theorem decode_encode_of_fromWire {m : Message} (h : m.FromWire)
    (hlength : m.encode.length ≤ Natural.max64) (rest : Bytes) :
    decode Natural.max64 (m.encode ++ rest) = (.ok (some m.reread), rest) := by
  have hsize : m.encode.length = m.front.length + (bodyBytes m.content).length := by
    rw [m.encode_eq, List.length_append]
  have hread : readHead m.front.length (m.front ++ (bodyBytes m.content ++ rest)) =
      .ok m.reread.head :=
    (readHead_front m _).trans (h.read_headText (m.length_encode ▸ hlength))
  have hbody : m.reread.head.bodyLength = (bodyBytes m.content).length := by
    rw [Message.bodyLength_head, Message.bodyBytes_reread]
  have hdecode : decode Natural.max64 ([] ++ (m.encode ++ rest)) = _ :=
    decode_written h.lineSafe (fun b hb => by cases hb) Natural.max64 rest
  rw [List.nil_append] at hdecode
  rw [hdecode, decodeHead_append hread hbody, if_pos (hsize ▸ hlength),
    ← Message.bodyBytes_reread, Message.message_head, h.plain_reread]

/-- The most bytes that a buffer in memory can have. -/
def maxBytes : Nat := 9223372036854775807

/-- A message that fitted into memory is not too long to be written again: each of its lines had two
bytes and gets one more, and a number of 64 bits has twenty digits. -/
theorem length_encode_le_of_leastLength {m : Message} (h : m.leastLength ≤ maxBytes) :
    m.encode.length ≤ Natural.max64 := by
  have hlines := m.two_mul_length_lineHeaders_le
  have hdigits : digitCount Natural.max64 = 20 := by decide
  have hmax : maxBytes = 9223372036854775807 := rfl
  have hmax64 : Natural.max64 = 18446744073709551615 := rfl
  refine Message.length_encode_le ?_
  rw [hdigits, m.otherLength_eq]
  omega

/-- A message that was read from bytes is read again when it is written: as it was, if it has no body
or no header in it has the name of a type, and otherwise with the first such header for the type of
its body and that type behind the other headers. -/
theorem reread_of_decodeMessage {bytes : Bytes} {m : Message} (hsize : bytes.length ≤ maxBytes)
    (h : decodeMessage bytes = .ok m) :
    decodeMessage m.encode = .ok m.reread ∧
      (m.content = none ∨ Headers.get? m.headers Catalogue.contentType = none → m.reread = m) := by
  obtain ⟨rest, hdecode⟩ := decode_of_decodeMessage h
  obtain ⟨hfrom, hleast⟩ := accepted_of_decode hdecode
  have hskipped := length_dropWhile_le isLineEnd bytes
  have hlength : m.encode.length ≤ Natural.max64 := length_encode_le_of_leastLength (by omega)
  refine ⟨?_, Message.reread_eq_self⟩
  have hagain := decode_encode_of_fromWire hfrom hlength []
  rw [List.append_nil] at hagain
  exact decodeMessage_of_decode hagain

/-- A message in a spelling of its own: line ends before it, the method in small letters, signs and
zeros before numbers, blanks around a header, a length before the type and one behind it, and line
feeds for the ends of lines. -/
def oddBytes : Bytes :=
  Utf8.encode
    "\r\nMRCP/2.0 7 stop +02\nX-Note :\tb \ncontent-length:00\ncontent-type:a\ncontent-length:+1\n\nz"

/-- What is read of it. -/
def oddMessage : Message :=
  .request
    { method := .stop, id := 2, headers := [.ofText "X-Note" "b"], content := some ⟨"a", [122]⟩ }

theorem decodeMessage_oddBytes : decodeMessage oddBytes = .ok oddMessage := by
  with_unfolding_all rfl

/-- That message is written in another spelling and read as it was. -/
theorem reread_of_decodeMessage_odd :
    oddBytes.length ≤ maxBytes ∧ decodeMessage oddBytes = .ok oddMessage ∧
      decodeMessage oddMessage.encode = .ok oddMessage ∧ oddMessage.encode ≠ oddBytes := by
  have hsize : oddBytes.length ≤ maxBytes := by decide +kernel
  obtain ⟨hagain, hsame⟩ := reread_of_decodeMessage hsize decodeMessage_oddBytes
  rw [hsame (Or.inr rfl)] at hagain
  exact ⟨hsize, decodeMessage_oddBytes, hagain, by decide +kernel⟩

/-- A request with an empty body of one type, and a header that gives another. -/
def typedTwice (type other : String) : Message :=
  .request
    { method := .stop, id := 2, headers := [.ofText Catalogue.contentType other]
      content := some ⟨type, []⟩ }

/-- Of two types the reader leaves the second in the headers, and when the message is written again
the two change places. -/
theorem types_change_places :
    decodeMessage (Utf8.encode ("MRCP/2.0 1 STOP 2\r\nContent-Type:a\r\nContent-Type:b\r\n" ++
      "Content-Length:0\r\n\r\n")) = .ok (typedTwice "a" "b") ∧
    decodeMessage (typedTwice "a" "b").encode = .ok (typedTwice "b" "a") ∧
    decodeMessage (typedTwice "a" "b").encode ≠ .ok (typedTwice "a" "b") := by
  have hagain : decodeMessage (typedTwice "a" "b").encode = .ok (typedTwice "b" "a") := by
    with_unfolding_all rfl
  refine ⟨by with_unfolding_all rfl, hagain, fun hsame => ?_⟩
  have hcontent := congrArg Message.content (Except.ok.inj (hagain.symm.trans hsame))
  exact absurd (congrArg (Option.map Content.type) hcontent) (by decide)

end Wire

end MediaControl
