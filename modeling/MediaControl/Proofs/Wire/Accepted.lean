import MediaControl.Proofs.Number.Read
import MediaControl.Proofs.Wire.Delivery
import MediaControl.Proofs.Wire.HeadLines
import MediaControl.Proofs.Wire.Written

/-!
# Messages that were read

A message that the reader takes out of a buffer is one that the writer's lines can carry: its names
and texts are trimmed, no line ends inside them, no header has the name of a length, and its numbers
keep to their bounds.  Whatever spelling it came in, the bytes that were taken away are no fewer than
those of its shortest spelling.

Main statements: `Head.accepted_of_read` (a head) and `accepted_of_decode` (a message in a buffer).
-/

set_option autoImplicit false

namespace MediaControl

open MediaControl.Text MediaControl.Wire

/-- What comes of two steps of which neither fails comes of the second, behind the first. -/
theorem exists_of_bind_eq_ok {ε α β : Type} {x : Except ε α} {f : α → Except ε β} {b : β}
    (h : (x >>= f) = .ok b) : ∃ a, x = .ok a ∧ f a = .ok b := by
  cases x with
  | error e => cases h
  | ok a => exact ⟨a, rfl, h⟩

theorem Header.size_line (h : Header) :
    size h.line.toList = size h.name.toList + 1 + size h.raw.toList := by
  have hcolon : size ":".toList = 1 := by decide
  rw [line, size_toList_append, size_toList_append, hcolon]

theorem Header.size_name_le (h : Header) {name : String}
    (hascii : name.toList.all fun c => c.toNat ≤ 127) (hname : h.hasName name = true) :
    size name.toList ≤ size h.name.toList :=
  size_le_of_sameCaseless hascii ((sameCaseless_comm _ _).trans hname)

namespace Wire

/-! ## Start lines -/

namespace StartLine

theorem le_of_readId {line word : String} {n : Nat} (h : readId line word = .ok n) :
    n ≤ Natural.max64 ∧ digitCount n ≤ size word.toList := by
  unfold readId at h
  split at h
  · rename_i id hread
    obtain rfl := Except.ok.inj h
    exact ⟨Natural.le_of_read hread,
      Nat.le_trans (Natural.digitCount_le_of_read hread) (length_le_size _)⟩
  · cases h

theorem size_wire_le_of_readTerm {α : Type} [Vocabulary α] {line word : String} {term : α}
    (hascii : (Vocabulary.wire term).toList.all fun c => c.toNat ≤ 127)
    (h : readTerm line word = .ok term) :
    size (Vocabulary.wire term).toList ≤ size word.toList := by
  unfold readTerm at h
  split at h
  · rename_i found hfound
    obtain rfl := Except.ok.inj h
    exact size_wire_le hascii hfound
  · cases h

theorem size_method_le {line word : String} {method : Method}
    (h : readTerm line word = .ok method) : size method.wire.toList ≤ size word.toList := by
  have hascii : (Vocabulary.wire method).toList.all fun c => c.toNat ≤ 127 := by
    cases method <;> decide
  have hsize := size_wire_le_of_readTerm hascii h
  exact hsize

theorem size_event_le {line word : String} {name : EventName} (h : readTerm line word = .ok name) :
    size name.wire.toList ≤ size word.toList := by
  have hascii : (Vocabulary.wire name).toList.all fun c => c.toNat ≤ 127 := by
    cases name <;> decide
  have hsize := size_wire_le_of_readTerm hascii h
  exact hsize

theorem size_state_le {line word : String} {state : RequestState}
    (h : readTerm line word = .ok state) : size state.wire.toList ≤ size word.toList := by
  have hascii : (Vocabulary.wire state).toList.all fun c => c.toNat ≤ 127 := by
    cases state <;> decide
  have hsize := size_wire_le_of_readTerm hascii h
  exact hsize

/-- Three digits are a number below a thousand. -/
theorem code_le_of_isStatusWord {line word : String} {code : Nat}
    (hword : isStatusWord word = true) (h : readId line word = .ok code) : code ≤ 999 := by
  simp only [isStatusWord, Bool.and_eq_true, beq_iff_eq] at hword
  unfold readId at h
  split at h
  · rename_i id hread
    obtain rfl := Except.ok.inj h
    obtain ⟨digits, -, hlength, hdigits⟩ := Natural.readFrom_of_read hread
    have hlt := (Natural.readFrom_bounds (Nat.zero_le _) hdigits).2
    have hpow : Nat.pow 10 digits.length ≤ Nat.pow 10 3 :=
      Nat.pow_le_pow_right (by decide) (hword.1 ▸ hlength)
    have hthousand : Nat.pow 10 3 = 1000 := rfl
    omega
  · cases h

theorem size_text (n : Nat) : size (Natural.text n).toList = digitCount n :=
  Message.length_encode_text n

theorem size_status {s : Status} (h : s.code ≤ 999) : size s.text.toList = 3 := by
  have hdigits : s.text.toList.all fun c => c.toNat ≤ 127 := by
    refine List.all_eq_true.mpr fun c hc => decide_eq_true ?_
    have hdigit := Natural.isDigit_of_mem_padded hc
    simp only [Char.isDigit, Bool.and_eq_true, decide_eq_true_eq] at hdigit
    exact Nat.le_trans (UInt32.le_iff_toNat_le.mp hdigit.2) (by decide)
  rw [size_eq_length hdigits]
  exact Natural.length_padded (by decide) (by show s.code < 1000; omega)

/-- What was read behind version and length keeps to its bounds, and its words are no larger than
those that were read. -/
theorem accepted_of_readTail {line : String} {words : List String} {s : StartLine}
    (h : readTail line words = .ok s) :
    s.IsBounded ∧ size s.tail.toList + 1 ≤ (words.map fun word => size word.toList + 1).sum := by
  have hspace : Char.utf8Size ' ' = 1 := by decide
  unfold readTail at h
  split at h
  · rename_i method id
    obtain ⟨term, hmethod, h⟩ := exists_of_bind_eq_ok h
    obtain ⟨n, hid, h⟩ := exists_of_bind_eq_ok h
    obtain rfl := Except.ok.inj h
    have hsize := size_method_le hmethod
    obtain ⟨hbound, hdigits⟩ := le_of_readId hid
    refine ⟨hbound, ?_⟩
    simp [tail, size_text, hspace]
    omega
  · rename_i third id state
    split at h
    · rename_i hstatus
      obtain ⟨code, hcode, h⟩ := exists_of_bind_eq_ok h
      obtain ⟨n, hid, h⟩ := exists_of_bind_eq_ok h
      obtain ⟨term, hstate, h⟩ := exists_of_bind_eq_ok h
      obtain rfl := Except.ok.inj h
      have hsize := size_state_le hstate
      obtain ⟨hbound, hdigits⟩ := le_of_readId hid
      have hrange := code_le_of_isStatusWord hstatus hcode
      have hthree : size (Status.mk code).text.toList ≤ size third.toList := by
        simp only [isStatusWord, Bool.and_eq_true, beq_iff_eq] at hstatus
        rw [size_status hrange, ← hstatus.1]
        exact length_le_size _
      refine ⟨⟨hrange, hbound⟩, ?_⟩
      simp [tail, size_text, hspace]
      omega
    · obtain ⟨name, hname, h⟩ := exists_of_bind_eq_ok h
      obtain ⟨n, hid, h⟩ := exists_of_bind_eq_ok h
      obtain ⟨term, hstate, h⟩ := exists_of_bind_eq_ok h
      obtain rfl := Except.ok.inj h
      have hevent := size_event_le hname
      have hsize := size_state_le hstate
      obtain ⟨hbound, hdigits⟩ := le_of_readId hid
      refine ⟨hbound, ?_⟩
      simp [tail, size_text, hspace]
      omega
  · cases h

/-- A start line that was read keeps to its bounds.  Beside its words it had room for the version, a
digit of a length and the blanks behind the two. -/
theorem accepted_of_read {line : String} {s : StartLine} (h : read line = .ok s) :
    s.IsBounded ∧ size s.tail.toList + 11 ≤ size line.toList := by
  have hroom := sum_size_words_le line
  have hsome : ∀ word ∈ words line, word ≠ "" := fun _ => ne_empty_of_mem_words
  unfold read at h
  split at h
  · cases h
  · rename_i version others hwords
    split at h
    · cases h
    · rename_i hversion
      obtain rfl : version = protocolVersion := by simpa using hversion
      split at h
      · cases h
      · rename_i length others
        obtain ⟨_, -, h⟩ := exists_of_bind_eq_ok h
        obtain ⟨hbounded, htail⟩ := accepted_of_readTail h
        have height : size protocolVersion.toList = 8 := by decide
        have hlength : 0 < size length.toList := by
          have hne := hsome length (by rw [hwords]; simp)
          exact Nat.lt_of_lt_of_le (List.length_pos_iff.mpr (by simpa using hne)) (length_le_size _)
        rw [hwords, List.map_cons, List.sum_cons, List.map_cons, List.sum_cons, height] at hroom
        exact ⟨hbounded, by omega⟩

end StartLine

/-! ## Header lines -/

namespace Head

theorem toList_eq_of_colon {line : String} {colon : Char} {value : List Char}
    (h : line.toList.dropWhile (· ≠ ':') = colon :: value) :
    line.toList = line.toList.takeWhile (· ≠ ':') ++ colon :: value := by
  rw [← h, List.takeWhile_append_dropWhile]

/-- The parts of a line around its colon and the colon take no more room than the line. -/
theorem size_trim_parts_le {line : String} {colon : Char} {value : List Char}
    (h : line.toList.dropWhile (· ≠ ':') = colon :: value) :
    size (trim (String.ofList (line.toList.takeWhile (· ≠ ':')))).toList + 1 +
      size (trim (String.ofList value)).toList ≤ size line.toList := by
  have hname := size_trim_le (String.ofList (line.toList.takeWhile (· ≠ ':')))
  have hraw := size_trim_le (String.ofList value)
  have hline := congrArg size (toList_eq_of_colon h)
  have hpos := colon.utf8Size_pos
  rw [String.toList_ofList] at hname hraw
  rw [size_append, size_cons] at hline
  omega

theorem notMem_trim_ofList {c : Char} {s line : List Char} (hs : s.Sublist line) (hc : c ∉ line) :
    c ∉ (trim (String.ofList s)).toList := by
  intro hmem
  rw [toList_trim, String.toList_ofList] at hmem
  exact hc (hs.mem ((trimChars_sublist s).mem hmem))

/-- A header that was read is one that a line can carry, made from its text and no larger than its
line. -/
theorem accepted_of_readLine {line : String} (hfeed : '\n' ∉ line.toList) {h : Header}
    (hread : readLine line = .ok (.header h)) :
    h.WireSafe ∧ h.plain = h ∧ size h.line.toList ≤ size line.toList := by
  unfold readLine at hread
  simp only at hread
  split at hread
  · cases hread
  · rename_i colon value hvalue
    have hline := toList_eq_of_colon hvalue
    have hparts := size_trim_parts_le hvalue
    split at hread
    · cases hread
    · rename_i hne
      split at hread
      · split at hread <;> cases hread
      · rename_i hlength
        obtain rfl := Line.header.inj (Except.ok.inj hread)
        refine ⟨?_, rfl, ?_⟩
        · have hbefore : (line.toList.takeWhile (· ≠ ':')).Sublist line.toList :=
            List.takeWhile_sublist _
          have hbehind : value.Sublist line.toList := by
            rw [hline]
            exact (List.sublist_cons_self colon value).trans (List.sublist_append_right _ _)
          have hcolon : ':' ∉ line.toList.takeWhile (· ≠ ':') := fun hmem =>
            absurd (List.mem_takeWhile_imp hmem) (by decide)
          exact
            { name_ne_empty := hne
              trim_name := trim_trim _
              colon_notMem_name := notMem_trim_ofList (List.Sublist.refl _) hcolon
              lineFeed_notMem_name := notMem_trim_ofList hbefore hfeed
              not_contentLength := Bool.eq_false_iff.mpr hlength
              trim_raw := trim_trim _
              lineFeed_notMem_raw := notMem_trim_ofList hbehind hfeed }
        · rw [Header.size_line]
          exact hparts

/-- The line that a length was read from has room for the name, the colon and the digits. -/
theorem accepted_of_readLine_length {line : String} {n : Nat}
    (hread : readLine line = .ok (.length n)) :
    n ≤ Natural.max64 ∧ 15 + digitCount n ≤ size line.toList := by
  unfold readLine at hread
  simp only at hread
  split at hread
  · cases hread
  · rename_i colon value hvalue
    have hparts := size_trim_parts_le hvalue
    split at hread
    · cases hread
    · split at hread
      · rename_i hlength
        split at hread
        · rename_i number hnumber
          obtain rfl := Line.length.inj (Except.ok.inj hread)
          have hname := size_le_of_sameCaseless (s := Catalogue.contentLength) (by decide)
            (sameCaseless_comm _ _ ▸ hlength)
          have hfourteen : size Catalogue.contentLength.toList = 14 := by decide
          have hdigits := Nat.le_trans (Natural.digitCount_le_of_read hnumber) (length_le_size _)
          exact ⟨Natural.le_of_read hnumber, by omega⟩
        · cases hread
      · cases hread

/-- How much room header lines take, each with a line feed. -/
def room (hs : Headers) : Nat := (hs.map fun h => size h.line.toList + 1).sum

@[simp] theorem room_nil : room [] = 0 := rfl

@[simp] theorem room_cons (h : Header) (hs : Headers) :
    room (h :: hs) = size h.line.toList + 1 + room hs := rfl

theorem size_line_le_room {hs : Headers} {h : Header} (hmem : h ∈ hs) :
    size h.line.toList + 1 ≤ room hs :=
  List.single_le_sum (fun _ _ => Nat.zero_le _) _ (List.mem_map_of_mem hmem)

/-- How much room the line with a length takes, with a line feed. -/
def lengthRoom : Option Nat → Nat
  | none => 0
  | some n => 16 + digitCount n

/-- Header lines that were read behind others: every header is one that a line can carry, and the
headers and the length have room in the lines. -/
theorem accepted_of_readLines {lines : List String} (hfeed : ∀ line ∈ lines, '\n' ∉ line.toList)
    {before : List Header} {length stated : Option Nat} {hs : Headers}
    (h : readLines before length lines = .ok (hs, stated)) :
    ∃ shown, hs = before.reverse ++ shown ∧ (∀ h ∈ shown, h.WireSafe ∧ h.plain = h) ∧
      (stated = length ∨ ∃ n, stated = some n ∧ n ≤ Natural.max64) ∧
      room shown + lengthRoom stated ≤
        (lines.map fun line => size line.toList + 1).sum + lengthRoom length := by
  -- the reader keeps the headers it has met in reverse, and the last length
  induction lines generalizing before length with
  | nil =>
      obtain ⟨rfl, rfl⟩ := Prod.mk.inj (Except.ok.inj h)
      exact ⟨[], (List.append_nil _).symm, fun h hh => (by cases hh), Or.inl rfl, Nat.le_refl _⟩
  | cons line lines ih =>
      have hline := hfeed line (List.mem_cons_self ..)
      have hrest := fun other hother => hfeed other (List.mem_cons_of_mem _ hother)
      rw [readLines] at h
      rw [List.map_cons, List.sum_cons]
      split at h
      · rename_i header hread
        obtain ⟨shown, rfl, hshown, hstated, hroom⟩ := ih hrest h
        obtain ⟨hsafe, hplain, hsize⟩ := accepted_of_readLine hline hread
        refine ⟨header :: shown, by simp, ?_, hstated, ?_⟩
        · exact List.forall_mem_cons.mpr ⟨⟨hsafe, hplain⟩, hshown⟩
        · rw [room_cons]
          omega
      · rename_i n hread
        obtain ⟨shown, rfl, hshown, hstated, hroom⟩ := ih hrest h
        obtain ⟨hbound, hsize⟩ := accepted_of_readLine_length hread
        refine ⟨shown, rfl, hshown, Or.inr ?_, ?_⟩
        · rcases hstated with rfl | hstated
          · exact ⟨n, rfl, hbound⟩
          · exact hstated
        · rw [lengthRoom] at hroom
          omega
      · cases h

end Head

end Wire

/-! ## Messages -/

namespace Message

/-- A message as the reader makes them: every header is one that a line can carry, made from its text,
and what is said of the body fits into lines too.  A header may still have the name of a type. -/
structure FromWire (m : Message) : Prop where
  isBounded : m.start.IsBounded
  headers : ∀ h ∈ m.headers, h.WireSafe ∧ h.plain = h
  trim_type : ∀ c, m.content = some c → trim c.type = c.type
  lineFeed_notMem_type : ∀ c, m.content = some c → '\n' ∉ c.type.toList
  length_body_le : ∀ c, m.content = some c → c.body.length ≤ Natural.max64

theorem FromWire.lineSafe {m : Message} (h : m.FromWire) : m.LineSafe where
  isBounded := h.isBounded
  headers := fun header hheader => (h.headers header hheader).1.lineSafe
  trim_type := h.trim_type
  lineFeed_notMem_type := h.lineFeed_notMem_type

/-- How much room the lines that announce a body take, each with a line feed. -/
def contentRoom : Option Content → Nat
  | none => 0
  | some c => size (typeHeader c).line.toList + 1 + Head.lengthRoom (some c.body.length)

/-- The length of a message in its shortest spelling: no blanks but those between words, one digit for
the length, no sign and no zeros before a number, and line feeds for the ends of lines. -/
def leastLength (m : Message) : Nat :=
  size m.start.tail.toList + 12 + Head.room m.headers + contentRoom m.content + 1 +
    (bodyBytes m.content).length

end Message

namespace Wire

namespace Head

@[simp] theorem start_message (head : Head) (body : Bytes) :
    (head.message body).start = head.start := by
  unfold Head.message
  split <;> rename_i hstart <;> rw [hstart] <;> rfl

@[simp] theorem headers_message (head : Head) (body : Bytes) :
    (head.message body).headers = head.headers := by
  unfold Head.message
  split <;> rfl

@[simp] theorem content_message (head : Head) (body : Bytes) :
    (head.message body).content = head.content body := by
  unfold Head.message
  split <;> rfl

/-- Taking a header away gives the room of its line back. -/
theorem room_erase {hs : Headers} {name : String} {h : Header}
    (hget : Headers.get? hs name = some h) :
    room hs = room (Headers.erase hs name) + (size h.line.toList + 1) := by
  induction hs with
  | nil => cases hget
  | cons other hs ih =>
      rw [Headers.get?, List.find?_cons] at hget
      rw [Headers.erase, List.eraseP_cons]
      split at hget
      · rename_i hname
        obtain rfl := Option.some.inj hget
        rw [hname, cond_true, room_cons]
        omega
      · rename_i hname
        have hrest := ih hget
        rw [Headers.erase] at hrest
        rw [hname, cond_false, room_cons, room_cons, hrest]
        omega

/-- The header of a type is no smaller than the line with which the type is written. -/
theorem size_typeHeader_le {h : Header} (hname : h.hasName Catalogue.contentType = true)
    (body : Bytes) :
    size (Message.typeHeader ⟨h.raw, body⟩).line.toList ≤ size h.line.toList := by
  have hsize := h.size_name_le (by decide) hname
  simp only [Header.size_line, Message.typeHeader, Header.ofText]
  omega

section

variable {start : StartLine} {hs : Headers} (hstart : start.IsBounded)
  (hsafe : ∀ h ∈ hs, h.WireSafe ∧ h.plain = h)

include hstart hsafe

/-- A message of lines without a type has no body, whether or not they state a length. -/
theorem accepted_of_typeless (length : Option Nat) :
    (Head.message ⟨start, hs, none, length⟩ []).FromWire ∧
      (Head.message ⟨start, hs, none, length⟩ []).leastLength =
        size start.tail.toList + 12 + room hs + 1 := by
  have hcontent : (Head.message ⟨start, hs, none, length⟩ []).content = none := by
    rw [content_message]
    cases length <;> rfl
  refine ⟨⟨?_, ?_, ?_, ?_, ?_⟩, ?_⟩
  · rwa [start_message]
  · rwa [headers_message]
  · exact fun c hc => absurd (hcontent.symm.trans hc) (by simp)
  · exact fun c hc => absurd (hcontent.symm.trans hc) (by simp)
  · exact fun c hc => absurd (hcontent.symm.trans hc) (by simp)
  · rw [Message.leastLength, hcontent, start_message, headers_message]
    simp [Message.contentRoom, bodyBytes]

/-- A message of lines with a type has it for the type of its body, and not among its headers. -/
theorem accepted_of_typed {header : Header} {body : Bytes}
    (hget : Headers.get? hs Catalogue.contentType = some header)
    (hbound : body.length ≤ Natural.max64) {m : Message}
    (hm : m = Head.message ⟨start, Headers.erase hs Catalogue.contentType, some header.raw,
      some body.length⟩ body) :
    m.FromWire ∧ m.leastLength ≤
      size start.tail.toList + 12 + room hs + lengthRoom (some body.length) + 1 + body.length := by
  have hmem := Headers.mem_of_get? hget
  have hcontent : m.content = some ⟨header.raw, body⟩ := hm ▸ content_message ..
  refine ⟨⟨?_, ?_, ?_, ?_, ?_⟩, ?_⟩
  · rwa [hm, start_message]
  · rw [hm, headers_message]
    exact fun other hother => hsafe other (List.mem_of_mem_eraseP hother)
  · rintro c hc
    obtain rfl := Option.some.inj (hcontent.symm.trans hc)
    exact (hsafe header hmem).1.trim_raw
  · rintro c hc
    obtain rfl := Option.some.inj (hcontent.symm.trans hc)
    exact (hsafe header hmem).1.lineFeed_notMem_raw
  · rintro c hc
    obtain rfl := Option.some.inj (hcontent.symm.trans hc)
    exact hbound
  · have hroom := room_erase hget
    have htype := size_typeHeader_le (Headers.hasName_of_get? hget) body
    rw [Message.leastLength, hcontent, hm, start_message, headers_message, Message.contentRoom]
    simp only [bodyBytes]
    omega

/-- The message that is made of lines that were read, and of as many bytes of body as they say, is one
of the reader's, and the lines and the body have room for it. -/
theorem accepted_of_settleContent {stated : Option Nat} {head : Head} {body : Bytes}
    (hstated : ∀ n, stated = some n → n ≤ Natural.max64)
    (h : settleContent start hs stated = .ok head) (hbody : body.length = head.bodyLength) :
    (head.message body).FromWire ∧ (head.message body).leastLength ≤
      size start.tail.toList + 12 + room hs + lengthRoom stated + 1 + body.length := by
  cases stated with
  | none =>
      obtain rfl := Except.ok.inj h
      obtain rfl : body = [] := List.length_eq_zero_iff.mp hbody
      obtain ⟨hfrom, hleast⟩ := accepted_of_typeless hstart hsafe none
      exact ⟨hfrom, by omega⟩
  | some n =>
      rw [settleContent] at h
      split at h
      · rename_i header hget
        obtain rfl := Except.ok.inj h
        obtain rfl : body.length = n := hbody
        exact accepted_of_typed hstart hsafe hget (hstated _ rfl) rfl
      · split at h
        · cases h
        · rename_i hzero
          obtain rfl : n = 0 := Nat.eq_zero_of_not_pos hzero
          obtain rfl := Except.ok.inj h
          obtain rfl : body = [] := List.length_eq_zero_iff.mp hbody
          obtain ⟨hfrom, hleast⟩ := accepted_of_typeless hstart hsafe (some 0)
          exact ⟨hfrom, by omega⟩

end

/-- The message that is made of a head that was read, and of as many bytes of body as it says, is one
of the reader's, and the head and the body have room for it. -/
theorem accepted_of_read {text : String} {head : Head} {body : Bytes}
    (hends : EndsEmpty (Utf8.encode text)) (h : Head.read text = .ok head)
    (hbody : body.length = head.bodyLength) :
    (head.message body).FromWire ∧
      (head.message body).leastLength ≤ size text.toList + body.length := by
  have hroom := sum_size_lines_le hends
  have hfeed : ∀ line ∈ lines text, '\n' ∉ line.toList := fun _ => lineFeed_notMem_of_mem_lines
  unfold Head.read at h
  split at h
  · cases h
  · rename_i first others hlines
    rw [hlines] at hroom hfeed
    obtain ⟨start, hstart, h⟩ := exists_of_bind_eq_ok h
    obtain ⟨⟨hs, stated⟩, hread, h⟩ := exists_of_bind_eq_ok h
    obtain ⟨hbounded, hfirst⟩ := StartLine.accepted_of_read hstart
    obtain ⟨shown, rfl, hshown, hstated, hothers⟩ :=
      accepted_of_readLines (fun line hline => hfeed line (List.mem_cons_of_mem _ hline)) hread
    have hlimit : ∀ n, stated = some n → n ≤ Natural.max64 := by
      rintro n rfl
      rcases hstated with hnone | ⟨n', heq, hle⟩
      · cases hnone
      · exact Option.some.inj heq ▸ hle
    obtain ⟨hfrom, hleast⟩ := accepted_of_settleContent hbounded hshown hlimit h hbody
    refine ⟨hfrom, ?_⟩
    rw [List.map_cons, List.sum_cons] at hroom
    have hnone : lengthRoom none = 0 := rfl
    omega

end Head

/-! ## Buffers -/

/-- What was done where a message was taken out behind its head. -/
theorem head_of_decodeHead {limit length : Nat} {buffer rest : Bytes} {m : Message}
    (hlength : length ≤ buffer.length) (h : decodeHead limit length buffer = (.ok (some m), rest)) :
    ∃ head body, readHead length buffer = .ok head ∧ body.length = head.bodyLength ∧
      length + body.length ≤ limit ∧ m = head.message body ∧
      buffer = buffer.take length ++ (body ++ rest) := by
  rw [decodeHead] at h
  cases hread : readHead length buffer with
  | error fault =>
      rw [hread] at h
      cases (Prod.mk.inj h).1
  | ok head =>
      simp only [hread] at h
      split at h
      · cases (Prod.mk.inj h).1
      · rename_i hlimit
        split at h
        · cases (Prod.mk.inj h).1
        · rename_i hthere
          rw [areFewer_eq_true_iff] at hthere
          obtain ⟨hmessage, hrest⟩ := Prod.mk.inj h
          have hbody : ((buffer.drop length).take head.bodyLength).length = head.bodyLength := by
            rw [List.length_take, List.length_drop]
            omega
          refine ⟨head, (buffer.drop length).take head.bodyLength, rfl, hbody, by omega, ?_, ?_⟩
          · exact (Option.some.inj (Except.ok.inj hmessage)).symm
          · rw [← hrest, List.take_append_drop, List.take_append_drop]

/-- A message that was taken out of a buffer is one of the reader's, and what was taken away of the
buffer had room for it. -/
theorem accepted_of_decode {limit : Nat} {buffer rest : Bytes} {m : Message}
    (h : decode limit buffer = (.ok (some m), rest)) :
    m.FromWire ∧ m.leastLength + rest.length ≤ (buffer.dropWhile isLineEnd).length := by
  rw [decode_eq] at h
  split at h
  · split at h <;> cases (Prod.mk.inj h).1
  · rename_i length hlength
    obtain ⟨head, body, hread, hbody, -, rfl, hbuffer⟩ :=
      head_of_decodeHead (headLength_le hlength) h
    have hends := endsEmpty_of_headLength (isLineEnd_head?_dropWhile buffer) hlength
    unfold readHead at hread
    split at hread
    · cases hread
    · rename_i text htext
      have hbytes := Utf8.encode_of_decode htext
      rw [← hbytes] at hends
      obtain ⟨hfrom, hleast⟩ := Head.accepted_of_read hends hread hbody
      refine ⟨hfrom, ?_⟩
      have hsize : size text.toList = ((buffer.dropWhile isLineEnd).take length).length :=
        congrArg List.length hbytes
      rw [hbuffer, List.length_append, List.length_append, ← hsize]
      omega

end Wire

end MediaControl
