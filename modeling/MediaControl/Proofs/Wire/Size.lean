import MediaControl.Proofs.Wire.Accepted

/-!
# How long a message gets when it is written

The writer's spelling differs from the shortest one in the carriage returns of its lines and in the
digits of the length.  So a message that was read is longer when it is written again by no more than
that.

Main statements: `otherLength_eq` and `length_encode_le`.
-/

set_option autoImplicit false

namespace MediaControl

open MediaControl.Text MediaControl.Wire

namespace Message

theorem length_lineBytes (line : String) : (lineBytes line).length = size line.toList + 2 := by
  rw [lineBytes, List.length_append, Text.length_encode]
  rfl

theorem length_headerBytes (hs : Headers) : (headerBytes hs).length = Head.room hs + hs.length := by
  induction hs with
  | nil => rfl
  | cons h hs ih =>
      rw [headerBytes, List.flatMap_cons, List.length_append, length_lineBytes, ← headerBytes, ih,
        Head.room_cons, List.length_cons]
      omega

theorem length_contentLines (content : Option Content) :
    (contentLines content).length = contentRoom content + (bodyHeaders content).length := by
  cases content with
  | none => rfl
  | some c =>
      have hlength : size (Catalogue.contentLength ++ ":").toList = 15 := by decide
      have hdigits := length_encode_text c.body.length
      rw [Text.length_encode] at hdigits
      rw [contentLines, List.length_append, length_lineBytes, length_lineBytes,
        size_toList_append (Catalogue.contentLength ++ ":"), hlength, hdigits, contentRoom,
        Head.lengthRoom, bodyHeaders, List.length_cons, List.length_singleton]
      simp only [typeHeader, Header.line, Header.ofText]
      omega

/-- Beside the digits of its length, a message is written with a carriage return for each line more
than its shortest spelling has, which has one digit for the length. -/
theorem otherLength_eq (m : Message) : m.otherLength = m.leastLength + m.lineHeaders.length + 1 := by
  have hversion : size (protocolVersion ++ "  ").toList = 10 := by decide
  have hend : lineEnd.length = 2 := rfl
  rw [otherLength, rest, List.length_append, List.length_append, List.length_append,
    length_headerBytes, length_contentLines, Text.length_encode,
    size_toList_append (protocolVersion ++ "  "), hversion, hend, leastLength, lineHeaders,
    List.length_append]
  omega

/-- Every header line has room for a colon and a line feed. -/
theorem two_mul_length_le_room (hs : Headers) : 2 * hs.length ≤ Head.room hs := by
  induction hs with
  | nil => exact Nat.le_refl _
  | cons h hs ih =>
      have hcolon : 1 ≤ size h.line.toList := by
        rw [Header.size_line]
        omega
      rw [Head.room_cons, List.length_cons]
      omega

theorem two_mul_length_lineHeaders_le (m : Message) :
    2 * m.lineHeaders.length ≤ m.leastLength := by
  have hheaders := two_mul_length_le_room m.headers
  have hbody : 2 * (bodyHeaders m.content).length ≤ contentRoom m.content := by
    cases m.content with
    | none => exact Nat.le_refl _
    | some c =>
        rw [contentRoom, Head.lengthRoom, bodyHeaders, List.length_cons, List.length_singleton]
        omega
  rw [lineHeaders, List.length_append, leastLength]
  omega

/-- A message is written within every limit that has room for its other bytes and for the digits of
the limit. -/
theorem length_encode_le {m : Message} {limit : Nat}
    (h : m.otherLength + digitCount limit ≤ limit) : m.encode.length ≤ limit := by
  rw [m.length_encode, length]
  exact messageLength_le h

end Message

end MediaControl
