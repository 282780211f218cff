import MediaControl.Proofs.Wire.Look

/-!
# The reader on a machine (SPEC_FULL §4.1)

A machine counts in words of 64 bits and finds the bytes of a buffer by their places.  It stops where it
is to look at a place behind the end of the buffer or to take more bytes away than there are, and where a
sum or a difference does not fit into a word.  `Machine.decode` takes the first message out of a buffer in
the steps of such a machine.

Main statement: `Machine.decode_eq` (the machine does not stop, and does what `decode` does).
-/

set_option autoImplicit false

namespace MediaControl.Wire

/-- For how many bytes of a body room is wanted after a look at a buffer. -/
def Decoded.wanted : Decoded → Nat
  | (.ok none, rest) => missingLength rest
  | _ => 0

namespace Machine

/-- Why a machine stops. -/
inductive Stop where
  /-- there are no bytes at that place -/
  | place
  /-- the number does not fit into a word -/
  | width
  deriving DecidableEq, Repr

/-! ## Steps -/

/-- The number as a word. -/
def word (n : Nat) : Except Stop UInt64 :=
  if n < UInt64.size then .ok (.ofNat n) else .error .width

/-- The sum, if it fits into a word. -/
def sum? (a b : UInt64) : Option UInt64 :=
  if a.toNat + b.toNat < UInt64.size then some (a + b) else none

/-- The place behind this one. -/
def behind (place : UInt64) : Except Stop UInt64 :=
  match sum? place 1 with
  | some sum => .ok sum
  | none => .error .width

/-- The difference. -/
def minus (a b : UInt64) : Except Stop UInt64 := if b ≤ a then .ok (a - b) else .error .width

/-- The bytes from one place to another. -/
def slice (first last : UInt64) (buffer : Bytes) : Except Stop Bytes :=
  if first ≤ last ∧ last.toNat ≤ buffer.length then
    .ok ((buffer.take last.toNat).drop first.toNat)
  else .error .place

/-- Takes so many bytes away from the front of the buffer; gives them and what is left. -/
def split (n : UInt64) (buffer : Bytes) : Except Stop (Bytes × Bytes) :=
  if n.toNat ≤ buffer.length then .ok (buffer.take n.toNat, buffer.drop n.toNat)
  else .error .place

/-- Takes so many bytes away from the front of the buffer. -/
def skip (n : UInt64) (buffer : Bytes) : Except Stop Bytes := do
  let (_, rest) ← split n buffer
  return rest

/-! ## The reader -/

/-- The place behind the head at the front of the buffer, if the end of the head is there.  `lineStart`
is the place of the line under the eye and `place` that of the next byte. -/
def headEndFrom (buffer : Bytes) (lineStart place : UInt64) : Bytes → Except Stop (Option UInt64)
  | [] => return none
  | b :: rest => do
    let next ← behind place
    if b = 10 then
      let line ← slice lineStart place buffer
      if line = [] ∨ line = [13] then return some next
      else headEndFrom buffer next next rest
    else headEndFrom buffer lineStart next rest

/-- The place behind the head at the front of the buffer, if the end of the head is there. -/
def headEnd (buffer : Bytes) : Except Stop (Option UInt64) := headEndFrom buffer 0 0 buffer

/-- What came of a look at a buffer, and for how many bytes of a body room is wanted. -/
structure Seen where
  decoded : Decoded
  wanted : UInt64 := 0

/-- Takes a message out of a buffer, whose head ends at that place and was read. -/
def takeMessage (limit length : UInt64) (head : Head) (buffer : Bytes) : Except Stop Seen := do
  let bodyLength ← word head.bodyLength
  match (sum? length bodyLength).filter (· ≤ limit) with
  | none => return { decoded := (.error (.oversized head.bodyLength limit.toNat), buffer) }
  | some total =>
    let present ← word buffer.length
    if present < total then
      return { decoded := (.ok none, buffer), wanted := ← minus total present }
    else
      let buffer ← skip length buffer
      let (body, rest) ← split bodyLength buffer
      return { decoded := (.ok (some (head.message body)), rest) }

/-- Takes the message out of a buffer whose head ends at that place. -/
def decodeHead (limit length : UInt64) (buffer : Bytes) : Except Stop Seen := do
  let front ← slice 0 length buffer
  match readHead front.length front with
  | .error fault => return { decoded := (.error fault, buffer) }
  | .ok head => takeMessage limit length head buffer

/-- Takes the first message out of the buffer. -/
def decode (limit : UInt64) (buffer : Bytes) : Except Stop Seen := do
  let leading ← word (buffer.takeWhile isLineEnd).length
  let buffer ← skip leading buffer
  match ← headEnd buffer with
  | none =>
    let present ← word buffer.length
    if limit < present then return { decoded := (.error (.unterminatedHead limit.toNat), buffer) }
    else return { decoded := (.ok none, buffer) }
  | some length => decodeHead limit length buffer

/-! ## Steps that can be done -/

@[simp] theorem bind_ok {α β : Type} (a : α) (f : α → Except Stop β) :
    ((Except.ok a : Except Stop α) >>= f) = f a := rfl

theorem word_eq {n : Nat} (h : n < UInt64.size) : word n = .ok (.ofNat n) := if_pos h

theorem sum?_eq {a b : UInt64} (h : a.toNat + b.toNat < UInt64.size) : sum? a b = some (a + b) :=
  if_pos h

theorem toNat_sum {a b : UInt64} (h : a.toNat + b.toNat < UInt64.size) :
    (a + b).toNat = a.toNat + b.toNat := by
  rw [UInt64.toNat_add]
  exact Nat.mod_eq_of_lt h

theorem behind_eq {place : UInt64} (h : place.toNat + 1 < UInt64.size) :
    behind place = .ok (place + 1) := by
  rw [behind, sum?_eq h]

theorem minus_eq {a b : UInt64} (h : b ≤ a) : minus a b = .ok (a - b) := if_pos h

theorem slice_eq {first last : UInt64} {buffer : Bytes} (hfirst : first.toNat ≤ last.toNat)
    (hlast : last.toNat ≤ buffer.length) :
    slice first last buffer = .ok ((buffer.take last.toNat).drop first.toNat) :=
  if_pos ⟨UInt64.le_iff_toNat_le.mpr hfirst, hlast⟩

theorem split_eq {n : UInt64} {buffer : Bytes} (h : n.toNat ≤ buffer.length) :
    split n buffer = .ok (buffer.take n.toNat, buffer.drop n.toNat) := if_pos h

theorem skip_eq {n : UInt64} {buffer : Bytes} (h : n.toNat ≤ buffer.length) :
    skip n buffer = .ok (buffer.drop n.toNat) := by
  rw [skip, split_eq h]
  rfl

/-! ## The machine does not stop -/

/-- The end of a head is found at its place.  `before` are the lines that were passed over and `line` is
what was seen of the next one, which is all that the search for the end of a head remembers. -/
theorem headEndFrom_eq {buffer before line rest : Bytes} {lineStart place : UInt64}
    (hsize : buffer.length < UInt64.size) (hbuffer : buffer = before ++ (line ++ rest))
    (hstart : lineStart.toNat = before.length) (hplace : place.toNat = (before ++ line).length) :
    headEndFrom buffer lineStart place rest =
      .ok ((headLengthFrom place.toNat (line.foldl LineState.after .start) rest).map .ofNat) := by
  induction rest generalizing before line lineStart place with
  | nil => rfl
  | cons b rest ih =>
      have hlength : buffer.length = before.length + (line.length + (rest.length + 1)) := by
        rw [hbuffer, List.length_append, List.length_append, List.length_cons]
      rw [List.length_append] at hplace
      have hroom : place.toNat + 1 < UInt64.size := by omega
      have hnext : (place + 1).toNat = place.toNat + 1 := toNat_sum hroom
      have hreached : (place + 1).toNat = (before ++ line ++ [b]).length := by
        rw [hnext, hplace, List.length_append, List.length_append, List.length_singleton]
      rw [headEndFrom, behind_eq hroom, bind_ok]
      by_cases hb : b = 10
      · subst hb
        have hline : slice lineStart place buffer = .ok line := by
          rw [slice_eq (by omega) (by omega), hbuffer, hstart, hplace, ← List.length_append,
            ← List.append_assoc, List.take_left, List.drop_left]
        have hspeaks : line.foldl LineState.after .start = .inside ↔ line ≠ [] ∧ line ≠ [13] :=
          foldl_after_eq_inside_iff
        rw [if_pos rfl, hline, bind_ok, headLengthFrom_lineFeed]
        -- the line feed ends the head, or another line begins at the next place
        by_cases hblank : line = [] ∨ line = [13]
        · have hends : line.foldl LineState.after .start ≠ .inside := fun hinside => by
            obtain ⟨hnil, hreturn⟩ := hspeaks.mp hinside
            exact hblank.elim hnil hreturn
          rw [if_pos hblank, if_neg hends, Option.map_some, ← hnext, UInt64.ofNat_toNat]
          rfl
        · have hinside := hspeaks.mpr (not_or.mp hblank)
          rw [if_neg hblank, if_pos hinside, ← hnext]
          have hpassed : buffer = (before ++ line ++ [10]) ++ ([] ++ rest) := by
            simp [hbuffer]
          refine ih hpassed hreached ?_
          rw [hreached, List.append_nil]
      · rw [if_neg hb, headLengthFrom_cons hb, ← hnext]
        have hafter : (line.foldl LineState.after .start).after b =
            (line ++ [b]).foldl LineState.after .start := by
          rw [List.foldl_append]
          rfl
        rw [hafter]
        refine ih ?_ hstart ?_
        · simp [hbuffer]
        · rw [hreached, List.append_assoc]

theorem headEnd_eq {buffer : Bytes} (hsize : buffer.length < UInt64.size) :
    headEnd buffer = .ok ((headLength buffer).map .ofNat) :=
  headEndFrom_eq hsize (show buffer = [] ++ ([] ++ buffer) from rfl) rfl rfl

/-- The sum of head and body is looked at only where it is a word, and it is within the limit only if it
is one. -/
theorem filter_sum?_eq (length bodyLength limit : UInt64) :
    (sum? length bodyLength).filter (· ≤ limit) =
      if limit.toNat < length.toNat + bodyLength.toNat then none else some (length + bodyLength) := by
  have hlimit := limit.toNat_lt_size
  by_cases hfits : length.toNat + bodyLength.toNat < UInt64.size
  · have hle : length + bodyLength ≤ limit ↔ length.toNat + bodyLength.toNat ≤ limit.toNat := by
      rw [UInt64.le_iff_toNat_le, toNat_sum hfits]
    rw [sum?_eq hfits, Option.filter_some]
    by_cases hover : limit.toNat < length.toNat + bodyLength.toNat
    · rw [if_pos hover, if_neg (by simpa [hle] using hover)]
    · rw [if_neg hover, if_pos (by simpa [hle] using hover)]
  · -- a sum that is no word is beyond every limit, since the limit is one
    rw [sum?, if_neg hfits, if_pos (by omega)]
    rfl

/-- Behind a head that was read the machine does what `decodeHead` does. -/
theorem takeMessage_eq (limit : UInt64) {buffer : Bytes} {length : Nat} {head : Head}
    (hsize : buffer.length < UInt64.size) (hlength : headLength buffer = some length)
    (hread : readHead length buffer = .ok head) (hbody : head.bodyLength < UInt64.size) :
    ∃ wanted, takeMessage limit (.ofNat length) head buffer =
        .ok ⟨Wire.decodeHead limit.toNat length buffer, wanted⟩ ∧
      wanted.toNat = (Wire.decodeHead limit.toNat length buffer).wanted := by
  have hle := headLength_le hlength
  have hword : (UInt64.ofNat length).toNat = length := UInt64.toNat_ofNat_of_lt' (by omega)
  have hbodyWord : (UInt64.ofNat head.bodyLength).toNat = head.bodyLength :=
    UInt64.toNat_ofNat_of_lt' hbody
  have hpresent : (UInt64.ofNat buffer.length).toNat = buffer.length :=
    UInt64.toNat_ofNat_of_lt' hsize
  simp only [takeMessage, Wire.decodeHead, hread, word_eq hbody, word_eq hsize, bind_ok,
    filter_sum?_eq, hword, hbodyWord]
  by_cases hover : limit.toNat < length + head.bodyLength
  · rw [if_pos hover, if_pos hover]
    exact ⟨0, rfl, rfl⟩
  · have htotal : (UInt64.ofNat length + UInt64.ofNat head.bodyLength).toNat =
        length + head.bodyLength := by
      have hlimit := limit.toNat_lt_size
      rw [toNat_sum (by omega), hword, hbodyWord]
    -- the sum is within the limit, so that from here on words compare as their numbers do
    rw [if_neg hover, if_neg hover]
    simp only [UInt64.lt_iff_toNat_lt, hpresent, htotal, areFewer_eq_true_iff]
    by_cases hfew : buffer.length < length + head.bodyLength
    · have hpast : UInt64.ofNat buffer.length ≤
          UInt64.ofNat length + UInt64.ofNat head.bodyLength := by
        rw [UInt64.le_iff_toNat_le, hpresent, htotal]
        exact Nat.le_of_lt hfew
      rw [if_pos hfew, if_pos hfew, minus_eq hpast]
      refine ⟨_, rfl, ?_⟩
      rw [UInt64.toNat_sub_of_le _ _ hpast, htotal, hpresent, Decoded.wanted, missingLength, hlength]
      simp only [hread]
    · rw [if_neg hfew, if_neg hfew, skip_eq (by omega), bind_ok, hword,
        split_eq (by rw [hbodyWord, List.length_drop]; omega), bind_ok, hbodyWord]
      exact ⟨0, rfl, rfl⟩

/-- Behind a head that was found the machine does what `decodeHead` does. -/
theorem decodeHead_eq (limit : UInt64) {buffer : Bytes} {length : Nat}
    (hsize : buffer.length < UInt64.size) (hfront : ∀ b ∈ buffer.head?, isLineEnd b = false)
    (hlength : headLength buffer = some length) :
    ∃ wanted, decodeHead limit (.ofNat length) buffer =
        .ok ⟨Wire.decodeHead limit.toNat length buffer, wanted⟩ ∧
      wanted.toNat = (Wire.decodeHead limit.toNat length buffer).wanted := by
  have hle := headLength_le hlength
  have hslice : slice 0 (.ofNat length) buffer = .ok (buffer.take length) := by
    have hword : (UInt64.ofNat length).toNat = length := UInt64.toNat_ofNat_of_lt' (by omega)
    rw [slice_eq (Nat.zero_le _) (by omega), hword]
    rfl
  have hfrontSize : (buffer.take length).length = length := by
    rw [List.length_take, Nat.min_eq_left hle]
  have hsame : readHead length (buffer.take length) = readHead length buffer := by
    rw [readHead, readHead, List.take_take, Nat.min_self]
  rw [decodeHead, hslice, bind_ok, hfrontSize, hsame]
  cases hread : readHead length buffer with
  | error fault =>
      rw [Wire.decodeHead, hread]
      exact ⟨0, rfl, rfl⟩
  | ok head =>
      obtain ⟨t, fields, -, hsaid⟩ := exists_says_of_readHead hfront hlength hread
      have hbody : head.bodyLength < UInt64.size :=
        Nat.lt_of_le_of_lt hsaid.bodyLength_le (by decide)
      exact takeMessage_eq limit hsize hlength hread hbody

/-- The machine does not stop, and it does what `decode` does: it finds the same, leaves the same bytes,
and wants room for as many bytes of a body as have yet to arrive. -/
theorem decode_eq (limit : UInt64) {buffer : Bytes} (hsize : buffer.length < UInt64.size) :
    ∃ wanted, decode limit buffer = .ok ⟨Wire.decode limit.toNat buffer, wanted⟩ ∧
      wanted.toNat = (Wire.decode limit.toNat buffer).wanted := by
  have hparts : (buffer.takeWhile isLineEnd).length + (buffer.dropWhile isLineEnd).length =
      buffer.length := by
    rw [← List.length_append, List.takeWhile_append_dropWhile]
  have hleading : (buffer.takeWhile isLineEnd).length < UInt64.size := by omega
  have hrest : (buffer.dropWhile isLineEnd).length < UInt64.size := by omega
  have hskip : skip (.ofNat (buffer.takeWhile isLineEnd).length) buffer =
      .ok (buffer.dropWhile isLineEnd) := by
    have hword := UInt64.toNat_ofNat_of_lt' hleading
    have hdrop : (buffer.takeWhile isLineEnd ++ buffer.dropWhile isLineEnd).drop
        (buffer.takeWhile isLineEnd).length = buffer.dropWhile isLineEnd := List.drop_left
    rw [List.takeWhile_append_dropWhile] at hdrop
    rw [skip_eq (by omega), hword, hdrop]
  rw [decode, word_eq hleading, bind_ok, hskip, bind_ok, headEnd_eq hrest, bind_ok, Wire.decode_eq]
  cases hlength : headLength (buffer.dropWhile isLineEnd) with
  | some length => exact decodeHead_eq limit hrest (isLineEnd_head?_dropWhile buffer) hlength
  | none =>
      have hpresent := UInt64.toNat_ofNat_of_lt' hrest
      simp only [Option.map_none, word_eq hrest, bind_ok, UInt64.lt_iff_toNat_lt, hpresent]
      by_cases hover : limit.toNat < (buffer.dropWhile isLineEnd).length
      · rw [if_pos hover, if_pos hover]
        exact ⟨0, rfl, rfl⟩
      · rw [if_neg hover, if_neg hover]
        refine ⟨0, rfl, ?_⟩
        rw [Decoded.wanted, missingLength, hlength]
        rfl

end Machine

end MediaControl.Wire
