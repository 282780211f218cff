import MediaControl.Proofs.Wire.Drain
import MediaControl.Proofs.Wire.Written

/-!
# Round trips (SPEC_FULL §4.1)

A message that was written is taken out of a buffer, and no byte more; so is every message of a
stream, in order, whatever line ends stand between them.

Main statements: `decode_encode_append` (one message), `drain_stream` (a stream) and
`written_is_read` (what is written within the limit is read back, and nothing else is written).
-/

set_option autoImplicit false

namespace MediaControl

open MediaControl.Text

namespace Wire

/-! ## Taking messages out of a buffer -/

/-- A message begins with the version of the protocol, which ends no line. -/
theorem dropWhile_isLineEnd_encode {gap : Bytes} (hgap : ∀ b ∈ gap, isLineEnd b = true)
    (m : Message) (rest : Bytes) :
    (gap ++ (m.encode ++ rest)).dropWhile isLineEnd = m.encode ++ rest := by
  have hversion : Utf8.encode protocolVersion = [77, 82, 67, 80, 47, 50, 46, 48] := by decide
  rw [List.dropWhile_append_of_pos hgap]
  simp only [Message.encode, lineBytes, Message.startLine, Utf8.encode_append, hversion,
    List.cons_append]
  exact List.dropWhile_cons_of_neg (by decide)

theorem readHead_encode (head : String) (rest : Bytes) :
    readHead (Utf8.encode head).length (Utf8.encode head ++ rest) = Head.read head := by
  rw [readHead, List.take_left, Utf8.decode_encode]

/-- A head and the body it announces are taken out of a buffer, if they keep to the limit together,
and refused otherwise. -/
theorem decodeHead_append {head : Head} {front body rest : Bytes}
    (hread : readHead front.length (front ++ (body ++ rest)) = .ok head)
    (hbody : head.bodyLength = body.length) (limit : Nat) :
    decodeHead limit front.length (front ++ (body ++ rest)) =
      if front.length + body.length ≤ limit then (.ok (some (head.message body)), rest)
      else (.error (.oversized body.length limit), front ++ (body ++ rest)) := by
  have hthere : areFewer (front.length + body.length) (front ++ (body ++ rest)) = false := by
    rw [← Bool.not_eq_true, areFewer_eq_true_iff, List.length_append, List.length_append]
    omega
  simp only [decodeHead, hread, hbody]
  split
  · rename_i hover
    rw [if_neg (Nat.not_le.mpr hover)]
  · rename_i hfits
    rw [hthere, if_pos (Nat.not_lt.mp hfits)]
    simp

theorem decode_written {m : Message} (safe : m.LineSafe) {gap : Bytes}
    (hgap : ∀ b ∈ gap, isLineEnd b = true) (limit : Nat) (rest : Bytes) :
    decode limit (gap ++ (m.encode ++ rest)) =
      decodeHead limit m.front.length (m.front ++ (bodyBytes m.content ++ rest)) := by
  have hfound : headLength (m.front ++ (bodyBytes m.content ++ rest)) = some m.front.length :=
    headLength_append (Message.isLine_of_mem_headLines safe m.length) _
  rw [decode, dropWhile_isLineEnd_encode hgap, m.encode_eq, List.append_assoc]
  simp only [hfound]

theorem readHead_front (m : Message) (rest : Bytes) :
    readHead m.front.length (m.front ++ rest) = Head.read (Head.text (m.headLines m.length)) :=
  readHead_encode _ rest

/-- A message that was written is taken out of a buffer, and no byte behind it, if it keeps to the
limit, and is refused otherwise. -/
theorem decode_encode_append {m : Message} (safe : m.WireSafe) {gap : Bytes}
    (hgap : ∀ b ∈ gap, isLineEnd b = true) (hlength : m.encode.length ≤ Natural.max64)
    (limit : Nat) (rest : Bytes) :
    decode limit (gap ++ (m.encode ++ rest)) =
      if m.encode.length ≤ limit then (.ok (some m.plain), rest)
      else (.error (.oversized (bodyBytes m.content).length limit), m.encode ++ rest) := by
  have hsize : m.encode.length = m.front.length + (bodyBytes m.content).length := by
    rw [m.encode_eq, List.length_append]
  have hread : readHead _ (m.front ++ (bodyBytes m.content ++ rest)) = .ok m.head :=
    (readHead_front m _).trans
      (Message.read_headText safe (m.length_encode ▸ hlength) (by omega))
  rw [decode_written safe.lineSafe hgap, decodeHead_append hread m.bodyLength_head,
    Message.message_head, hsize, m.encode_eq, List.append_assoc]

/-- A message too long for its own length field is refused. -/
theorem decode_encode_append_of_long {m : Message} (safe : m.WireSafe) {gap : Bytes}
    (hgap : ∀ b ∈ gap, isLineEnd b = true) (hlength : Natural.max64 < m.encode.length)
    (limit : Nat) (rest : Bytes) :
    decode limit (gap ++ (m.encode ++ rest)) =
      (.error (.startLine (m.startLine m.length) none), m.encode ++ rest) := by
  have hread : readHead _ (m.front ++ (bodyBytes m.content ++ rest)) = .error _ :=
    (readHead_front m _).trans
      (Message.read_headText_of_long safe.lineSafe (m.length_encode ▸ hlength))
  rw [decode_written safe.lineSafe hgap, m.encode_eq, List.append_assoc]
  simp only [decodeHead, hread]

/-! ## Streams -/

/-- A message of a stream, and the bytes that stand between it and the one before. -/
structure Spaced where
  gap : Bytes
  message : Message

namespace Spaced

/-- What the message adds to the stream. -/
def bytes (w : Spaced) : Bytes := w.gap ++ w.message.encode

/-- Nothing but line ends stands before the message, which comes out of its bytes as it went in and
keeps to the limit. -/
structure Fits (limit : Nat) (w : Spaced) : Prop where
  isLineEnd_gap : ∀ b ∈ w.gap, isLineEnd b = true
  safe : w.message.WireSafe
  length_le : w.message.encode.length ≤ limit

end Spaced

/-- Line ends alone are no message. -/
theorem decode_of_isLineEnd {bytes : Bytes} (h : ∀ b ∈ bytes, isLineEnd b = true) (limit : Nat) :
    decode limit bytes = (.ok none, []) := by
  have hnone : bytes.dropWhile isLineEnd = [] := by
    have happend : (bytes ++ []).dropWhile isLineEnd = ([] : Bytes).dropWhile isLineEnd :=
      List.dropWhile_append_of_pos h
    rw [List.append_nil] at happend
    exact happend
  rw [decode, hnone]
  rfl

/-- Every message of a stream comes out of it, in order, and the wait for more is all that remains. -/
theorem drain_stream {limit : Nat} (hlimit : limit ≤ Natural.max64) {stream : List Spaced}
    (fits : ∀ w ∈ stream, w.Fits limit) {last : Bytes} (hlast : ∀ b ∈ last, isLineEnd b = true) :
    drain limit false (stream.flatMap Spaced.bytes ++ last) =
      ⟨stream.map fun w => w.message.plain, .waiting, []⟩ := by
  induction stream with
  | nil => exact drain_of_waiting (decode_of_isLineEnd hlast limit)
  | cons w stream ih =>
      obtain ⟨hgap, safe, hlength⟩ := fits w (List.mem_cons_self ..)
      have hrest := ih fun other hother => fits other (List.mem_cons_of_mem _ hother)
      have htaken : takeFirst limit false (w.bytes ++ (stream.flatMap Spaced.bytes ++ last)) =
          (.ok (some w.message.plain), stream.flatMap Spaced.bytes ++ last) := by
        have hdecode := decode_encode_append safe hgap (Nat.le_trans hlength hlimit) limit
          (stream.flatMap Spaced.bytes ++ last)
        rw [if_pos hlength] at hdecode
        rw [Spaced.bytes, List.append_assoc]
        exact hdecode
      rw [List.flatMap_cons, List.append_assoc, drain_of_message htaken, hrest]
      rfl

/-- Messages that are written one behind the other are read in that order. -/
theorem drain_flatMap_encode {limit : Nat} (hlimit : limit ≤ Natural.max64) {ms : List Message}
    (safe : ∀ m ∈ ms, m.WireSafe ∧ m.encode.length ≤ limit) :
    drain limit false (ms.flatMap Message.encode) = ⟨ms.map Message.plain, .waiting, []⟩ := by
  have fits : ∀ w ∈ ms.map (Spaced.mk []), w.Fits limit := by
    intro w hw
    obtain ⟨m, hm, rfl⟩ := List.mem_map.mp hw
    obtain ⟨hsafe, hlength⟩ := safe m hm
    exact ⟨fun b hb => (by cases hb), hsafe, hlength⟩
  have hnothing : ∀ b ∈ ([] : Bytes), isLineEnd b = true := fun b hb => by cases hb
  have hdrain := drain_stream hlimit fits hnothing
  rw [List.append_nil, List.flatMap_map, List.map_map] at hdrain
  exact hdrain

/-- A message that is too large is refused by the reader, whatever stands around it. -/
theorem decode_encode_append_of_lt {m : Message} (safe : m.WireSafe) {limit : Nat}
    (hover : limit < m.encode.length) {gap : Bytes} (hgap : ∀ b ∈ gap, isLineEnd b = true)
    (rest : Bytes) :
    ∃ fault, decode limit (gap ++ (m.encode ++ rest)) = (.error fault, m.encode ++ rest) := by
  by_cases hlength : m.encode.length ≤ Natural.max64
  · have hdecode := decode_encode_append safe hgap hlength limit rest
    rw [if_neg (Nat.not_le.mpr hover)] at hdecode
    exact ⟨_, hdecode⟩
  · exact ⟨_, decode_encode_append_of_long safe hgap (Nat.not_le.mp hlength) limit rest⟩

/-- Every message that keeps to the limit, which is a number of 64 bits, is written, and a stream of such
messages, with line ends anywhere between them, is read as those messages and nothing else; a message
beyond the limit is neither written nor read. -/
theorem written_is_read {limit : Nat} (hlimit : limit ≤ Natural.max64) :
    (∀ (stream : List Spaced) (last : Bytes), (∀ w ∈ stream, w.Fits limit) →
      (∀ b ∈ last, isLineEnd b = true) →
      (∀ w ∈ stream, ∀ buffer,
        encodeTo limit w.message buffer = .ok (buffer ++ w.message.encode)) ∧
      drain limit false (stream.flatMap Spaced.bytes ++ last) =
        ⟨stream.map fun w => w.message.plain, .waiting, []⟩) ∧
    ∀ m : Message, m.WireSafe → limit < m.encode.length →
      (∀ buffer, encodeTo limit m buffer = .error (.unwritable m.encode.length limit)) ∧
      ∀ gap rest : Bytes, (∀ b ∈ gap, isLineEnd b = true) →
        ∃ fault, decode limit (gap ++ (m.encode ++ rest)) = (.error fault, m.encode ++ rest) := by
  refine ⟨?_, ?_⟩
  · intro stream last fits hlast
    refine ⟨?_, drain_stream hlimit fits hlast⟩
    intro w hw buffer
    rw [encodeTo, if_pos (fits w hw).length_le]
  · intro m safe hover
    refine ⟨?_, ?_⟩
    · intro buffer
      rw [encodeTo, if_neg (Nat.not_le.mpr hover)]
    · intro gap rest hgap
      exact decode_encode_append_of_lt safe hover hgap rest

/-- A request with the largest id, a header and the given body. -/
def noted (body : Bytes) : Message :=
  .request
    { method := .stop, id := Natural.max64, headers := [.ofText "X-Note" "a b"]
      content := some ⟨"text/plain", body⟩ }

theorem noted_safe (body : Bytes) : (noted body).WireSafe where
  isBounded := Nat.le_refl Natural.max64
  headers := by
    intro h hh
    rw [List.mem_singleton.mp hh]
    exact ⟨by decide, by decide, by decide, by decide, by decide, by decide, by decide⟩
  trim_type := by
    intro c hc
    cases hc
    exact show trim "text/plain" = "text/plain" by decide
  lineFeed_notMem_type := by
    intro c hc
    cases hc
    exact show '\n' ∉ "text/plain".toList by decide
  not_contentType := by
    intro c _ h hh
    rw [List.mem_singleton.mp hh]
    decide

/-- A body of two empty lines, behind line ends, and an empty body. -/
def notedStream : List Spaced := [⟨[13, 10, 10], noted [13, 10, 13, 10]⟩, ⟨[], noted []⟩]

theorem notedStream_fits : ∀ w ∈ notedStream, w.Fits 101 := by
  intro w hw
  simp only [notedStream, List.mem_cons, List.not_mem_nil, or_false] at hw
  rcases hw with rfl | rfl
  · exact ⟨List.all_eq_true.mp rfl, noted_safe _, by decide +kernel⟩
  · exact ⟨List.all_eq_true.mp rfl, noted_safe _, by decide +kernel⟩

/-- Under a limit of 101 bytes both of those are written and read, and a body of five bytes is not. -/
theorem written_is_read_noted :
    ((∀ w ∈ notedStream, ∀ buffer,
        encodeTo 101 w.message buffer = .ok (buffer ++ w.message.encode)) ∧
      drain 101 false (notedStream.flatMap Spaced.bytes ++ [10]) =
        ⟨notedStream.map fun w => w.message.plain, .waiting, []⟩) ∧
    (∀ buffer, encodeTo 101 (noted [1, 2, 3, 4, 5]) buffer =
      .error (.unwritable (noted [1, 2, 3, 4, 5]).encode.length 101)) ∧
    ∀ gap rest : Bytes, (∀ b ∈ gap, isLineEnd b = true) →
      ∃ fault, decode 101 (gap ++ ((noted [1, 2, 3, 4, 5]).encode ++ rest)) =
        (.error fault, (noted [1, 2, 3, 4, 5]).encode ++ rest) := by
  have hlimit : 101 ≤ Natural.max64 := by decide
  have hlong : 101 < (noted [1, 2, 3, 4, 5]).encode.length := by decide +kernel
  obtain ⟨within, beyond⟩ := written_is_read hlimit
  exact ⟨within notedStream [10] notedStream_fits (List.all_eq_true.mp rfl),
    beyond _ (noted_safe _) hlong⟩

end Wire

end MediaControl
