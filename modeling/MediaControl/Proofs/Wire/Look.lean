import MediaControl.Proofs.Wire.Grammar

/-!
# One look at a buffer

Whatever comes of a look at a buffer, it is one of four things: the head has yet to arrive, the body has
yet to arrive, the bytes are refused, or a message is taken out.  Only in the last case is anything taken
away behind the line ends at the front, and then it is a head as the grammar has it and the bytes of body
that the head states.

Main statement: `look_decode`.
-/

set_option autoImplicit false

namespace MediaControl.Wire

/-! ## The head at the front -/

namespace HeadText

/-- A head states a length that is a number of 64 bits. -/
theorem Says.bodyLength_le {t : HeadText} {head : Head} {fields : Headers}
    (h : t.Says head fields) : head.bodyLength ≤ Natural.max64 := by
  have hstates := h.states
  rw [h.bodyLength]
  cases hlength : head.contentLength with
  | none => exact Nat.zero_le _
  | some n =>
      rw [hlength] at hstates
      obtain ⟨-, -, -, hle⟩ := hstates
      exact hle

end HeadText

/-- A head that was found and read behind the line ends of a buffer is one of the grammar, and says what
its lines make it say. -/
theorem exists_says_of_readHead {buffer : Bytes} {length : Nat} {head : Head}
    (hfront : ∀ b ∈ buffer.head?, isLineEnd b = false) (hlength : headLength buffer = some length)
    (hread : readHead length buffer = .ok head) :
    ∃ (t : HeadText) (fields : Headers), t.bytes = buffer.take length ∧ t.Says head fields := by
  unfold readHead at hread
  split at hread
  · cases hread
  · rename_i text htext
    obtain ⟨t, rfl⟩ := HeadText.exists_of_headLength hfront hlength htext
    obtain ⟨fields, hsaid⟩ := (t.read_text_eq_ok_iff head).mp hread
    exact ⟨t, fields, Utf8.encode_of_decode htext, hsaid⟩

/-! ## What a look comes to -/

/-- What may come of a look at a buffer that begins with no line end. -/
inductive Look (limit : Nat) (buffer : Bytes) : Decoded → Prop
  /-- the end of the head has yet to arrive, and there is room for more of it -/
  | headless (hnone : headLength buffer = none) (hroom : buffer.length ≤ limit) :
      Look limit buffer (.ok none, buffer)
  /-- some of the body has yet to arrive, and there is room for all of it -/
  | bodyless {t : HeadText} {head : Head} {fields : Headers} {arrived : Bytes}
      (hbuffer : buffer = t.bytes ++ arrived) (hsaid : t.Says head fields)
      (hmissing : arrived.length < head.bodyLength)
      (hroom : t.bytes.length + head.bodyLength ≤ limit) :
      Look limit buffer (.ok none, buffer)
  | refused (fault : Fault) : Look limit buffer (.error fault, buffer)
  /-- the head and the body are there -/
  | taken {t : HeadText} {head : Head} {fields : Headers} {body rest : Bytes}
      (hbuffer : buffer = t.bytes ++ (body ++ rest)) (hsaid : t.Says head fields)
      (hbody : body.length = head.bodyLength)
      (hroom : t.bytes.length + body.length ≤ limit) :
      Look limit buffer (.ok (some (head.message body)), rest)

/-- A look at a buffer whose head was found. -/
theorem look_decodeHead {limit length : Nat} {buffer : Bytes}
    (hfront : ∀ b ∈ buffer.head?, isLineEnd b = false) (hlength : headLength buffer = some length) :
    Look limit buffer (decodeHead limit length buffer) := by
  rw [decodeHead]
  cases hread : readHead length buffer with
  | error fault => exact .refused fault
  | ok head =>
      obtain ⟨t, fields, hbytes, hsaid⟩ := exists_says_of_readHead hfront hlength hread
      have hthere : length ≤ buffer.length := headLength_le hlength
      have hsize : t.bytes.length = length := by
        rw [hbytes, List.length_take, Nat.min_eq_left hthere]
      have hbuffer : buffer = t.bytes ++ buffer.drop length := by
        rw [hbytes, List.take_append_drop]
      simp only
      split
      · exact .refused _
      · rename_i hlimit
        have hroom : t.bytes.length + head.bodyLength ≤ limit := by omega
        split
        · rename_i hfew
          rw [areFewer_eq_true_iff] at hfew
          refine .bodyless hbuffer hsaid ?_ hroom
          rw [List.length_drop]
          omega
        · rename_i hall
          rw [areFewer_eq_true_iff] at hall
          have hbody : ((buffer.drop length).take head.bodyLength).length = head.bodyLength := by
            rw [List.length_take, List.length_drop]
            omega
          refine .taken ?_ hsaid hbody ?_
          · rw [List.take_append_drop]
            exact hbuffer
          · rw [hbody]
            exact hroom

/-- A look at a buffer passes over the line ends at its front, and comes to one of the four things. -/
theorem look_decode (limit : Nat) (buffer : Bytes) :
    Look limit (buffer.dropWhile isLineEnd) (decode limit buffer) := by
  rw [decode_eq]
  split
  · rename_i hnone
    split
    · exact .refused _
    · rename_i hroom
      exact .headless hnone (Nat.not_lt.mp hroom)
  · rename_i length hlength
    exact look_decodeHead (isLineEnd_head?_dropWhile buffer) hlength

end MediaControl.Wire
