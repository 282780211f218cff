import MediaControl.Proofs.Wire.Accepted
import MediaControl.Proofs.Wire.RoundTrip

/-!
# Where a message ends for its reader (SPEC_FULL §3, §4.1)

A reader takes as many bytes of body as the last line with the name of a length says.  The writer puts
that line behind all headers, but only where there is a body.  So a header of that name among the
headers of a message decides nothing where there is one, as long as it is a number, and where there is
none it makes the reader take bytes of the next message, or wait for bytes that were not sent.

Main statement: `delimited_iff`, which says of which messages the reader takes what was written and no
byte more.
-/

set_option autoImplicit false

namespace MediaControl

open MediaControl.Text MediaControl.Wire

/-! ## Headers with the name of a length -/

namespace Headers

/-- The headers with the name of a length. -/
def lengths (hs : Headers) : Headers := hs.filter fun h => h.hasName Catalogue.contentLength

/-- Every header with the name of a length gives one. -/
def LengthsReadable (hs : Headers) : Prop :=
  ∀ h ∈ Headers.lengths hs, ∃ n, Natural.read Natural.max64 h.raw = .ok n

/-- Header lines state a length exactly if all of them that should give one do, and it is the last
one. -/
theorem statedLength_eq_ok_iff {hs : Headers} {before stated : Option Nat} :
    Headers.statedLength before hs = .ok stated ↔
      Headers.LengthsReadable hs ∧
        match (Headers.lengths hs).getLast? with
        | none => stated = before
        | some h => ∃ n, Natural.read Natural.max64 h.raw = .ok n ∧ stated = some n := by
  induction hs generalizing before with
  | nil => simp [statedLength, LengthsReadable, lengths, eq_comm]
  | cons h hs ih =>
      rw [statedLength]
      split
      · rename_i hname
        have hlengths : Headers.lengths (h :: hs) = h :: Headers.lengths hs :=
          List.filter_cons_of_pos hname
        rw [LengthsReadable, hlengths, List.getLast?_cons, List.forall_mem_cons]
        split
        · rename_i n hread
          rw [ih]
          refine and_congr (iff_and_self.mpr fun _ => ⟨n, hread⟩) ?_
          cases (Headers.lengths hs).getLast? with
          | none => simp [hread]
          | some last => rfl
        · rename_i fault hread
          refine iff_of_false (fun hok => by cases hok) ?_
          rintro ⟨⟨⟨n, hn⟩, -⟩, -⟩
          rw [hread] at hn
          cases hn
      · rename_i hname
        have hlengths : Headers.lengths (h :: hs) = Headers.lengths hs :=
          List.filter_cons_of_neg hname
        rw [LengthsReadable, hlengths]
        exact ih

theorem lengthsReadable_iff {hs : Headers} (before : Option Nat) :
    Headers.LengthsReadable hs ↔ ∃ stated, Headers.statedLength before hs = .ok stated := by
  simp only [statedLength_eq_ok_iff]
  constructor
  · intro hreadable
    cases hlast : (Headers.lengths hs).getLast? with
    | none => exact ⟨before, hreadable, rfl⟩
    | some h =>
        obtain ⟨n, hread⟩ := hreadable h (List.mem_of_getLast? hlast)
        exact ⟨some n, hreadable, n, hread, rfl⟩
  · rintro ⟨_, hreadable, -⟩
    exact hreadable

end Headers

namespace Message

/-- Every header with the name of a length gives one, and without a body the last of them gives
zero. -/
structure Delimited (m : Message) : Prop where
  readable : Headers.LengthsReadable m.headers
  zero : m.content = none → ∀ h, (Headers.lengths m.headers).getLast? = some h →
    Natural.read Natural.max64 h.raw = .ok 0

/-- The lines of a message state the length of its body exactly if the message is delimited. -/
theorem delimited_iff_statedLength {m : Message}
    (hbody : ∀ c, m.content = some c → c.body.length ≤ Natural.max64) :
    m.Delimited ↔ ∃ stated, Headers.statedLength none m.lineHeaders = .ok stated ∧
      stated.getD 0 = (bodyBytes m.content).length := by
  cases hcontent : m.content with
  | none =>
      rw [lineHeaders, hcontent, bodyHeaders, List.append_nil]
      simp only [Headers.statedLength_eq_ok_iff, bodyBytes, List.length_nil]
      constructor
      · rintro ⟨hreadable, hzero⟩
        cases hlast : (Headers.lengths m.headers).getLast? with
        | none => exact ⟨none, ⟨hreadable, rfl⟩, rfl⟩
        | some h => exact ⟨some 0, ⟨hreadable, 0, hzero hcontent h hlast, rfl⟩, rfl⟩
      · rintro ⟨stated, ⟨hreadable, hlast⟩, hzero⟩
        refine ⟨hreadable, fun _ h hh => ?_⟩
        rw [hh] at hlast
        obtain ⟨n, hread, rfl⟩ := hlast
        obtain rfl : n = 0 := hzero
        exact hread
  | some c =>
      have hsized := hbody c hcontent
      rw [lineHeaders, hcontent, Headers.statedLength_append]
      simp only [statedLength_bodyHeaders c hsized, bodyBytes]
      constructor
      · rintro ⟨hreadable, -⟩
        obtain ⟨stated, hstated⟩ := (Headers.lengthsReadable_iff none).mp hreadable
        exact ⟨some c.body.length, by rw [hstated]; rfl, rfl⟩
      · rintro ⟨stated, hstated, -⟩
        obtain ⟨before, hbefore, -⟩ := exists_of_bind_eq_ok hstated
        refine ⟨(Headers.lengthsReadable_iff none).mpr ⟨before, hbefore⟩, fun hnone => ?_⟩
        cases hcontent.symm.trans hnone

theorem get?_shown_ne_none {m : Message} {c : Content} (hcontent : m.content = some c) :
    Headers.get? (Headers.shown m.lineHeaders) Catalogue.contentType ≠ none := by
  have htype : (typeHeader c).hasName Catalogue.contentType = true := sameCaseless_refl _
  rw [lineHeaders, hcontent, Headers.shown_append, shown_bodyHeaders, Headers.get?]
  exact fun hnone => absurd htype (List.find?_eq_none.mp hnone _ (by simp))

end Message

namespace Wire

/-! ## Heads -/

/-- A head that was made of lines has the body that they state. -/
theorem Head.bodyLength_of_settleContent {start : StartLine} {hs : Headers} {stated : Option Nat}
    {head : Head} (h : Head.settleContent start hs stated = .ok head) :
    head.bodyLength = stated.getD 0 := by
  cases stated with
  | none =>
      obtain rfl := Except.ok.inj h
      rfl
  | some n =>
      rw [Head.settleContent] at h
      split at h
      · obtain rfl := Except.ok.inj h
        rfl
      · split at h
        · cases h
        · obtain rfl := Except.ok.inj h
          rfl

/-- Lines that state the length of a body of which the type is shown, or no body, make a head. -/
theorem Head.exists_settleContent {start : StartLine} {hs : Headers} {stated : Option Nat}
    (h : Headers.get? hs Catalogue.contentType ≠ none ∨ stated.getD 0 = 0) :
    ∃ head, Head.settleContent start hs stated = .ok head := by
  cases stated with
  | none => exact ⟨_, rfl⟩
  | some n =>
      rw [Head.settleContent]
      cases htype : Headers.get? hs Catalogue.contentType with
      | some header => exact ⟨_, rfl⟩
      | none =>
          rcases h with hsome | hzero
          · exact absurd htype hsome
          · exact ⟨_, if_neg (by simpa using hzero)⟩

/-! ## Buffers -/

/-- The head of a message is read as one with the length of its body exactly if the message is
delimited. -/
theorem exists_head_iff {m : Message} (safe : m.LineSafe) (hlength : m.encode.length ≤ Natural.max64)
    (rest : Bytes) :
    (∃ head, readHead m.front.length (m.front ++ rest) = .ok head ∧
      head.bodyLength = (bodyBytes m.content).length) ↔ m.Delimited := by
  have hsize : m.encode.length = m.front.length + (bodyBytes m.content).length := by
    rw [m.encode_eq, List.length_append]
  have hbody : ∀ c, m.content = some c → c.body.length ≤ Natural.max64 := by
    intro c hc
    rw [hc, bodyBytes] at hsize
    omega
  rw [Message.delimited_iff_statedLength hbody, readHead_front,
    Message.read_headText_of_lineSafe safe (m.length_encode ▸ hlength)]
  constructor
  · rintro ⟨head, hhead, hbodyLength⟩
    obtain ⟨stated, hstated, hsettle⟩ := exists_of_bind_eq_ok hhead
    exact ⟨stated, hstated, (Head.bodyLength_of_settleContent hsettle).symm.trans hbodyLength⟩
  · rintro ⟨stated, hstated, hbodyLength⟩
    have hshown : Headers.get? (Headers.shown m.lineHeaders) Catalogue.contentType ≠ none ∨
        stated.getD 0 = 0 := by
      cases hcontent : m.content with
      | none => exact Or.inr (hbodyLength.trans (by rw [hcontent]; rfl))
      | some c => exact Or.inl (Message.get?_shown_ne_none hcontent)
    obtain ⟨head, hhead⟩ : ∃ head, Head.settleContent m.start _ stated = .ok head :=
      Head.exists_settleContent hshown
    refine ⟨head, ?_, (Head.bodyLength_of_settleContent hhead).trans hbodyLength⟩
    rw [hstated]
    exact hhead

/-- Whatever the names of its headers are, the reader takes a message as it was written, and no byte of
what follows it, exactly if it is delimited: the headers with the name of a length are numbers, and
where the message has no body the last of them is zero. -/
theorem delimited_iff {m : Message} (safe : m.LineSafe) {limit : Nat}
    (hlength : m.encode.length ≤ Natural.max64) (hlimit : m.encode.length ≤ limit) (rest : Bytes) :
    (∃ m', decode limit (m.encode ++ rest) = (.ok (some m'), rest)) ↔ m.Delimited := by
  have hsize : m.encode.length = m.front.length + (bodyBytes m.content).length := by
    rw [m.encode_eq, List.length_append]
  have hdecode : decode limit ([] ++ (m.encode ++ rest)) = _ :=
    decode_written safe (fun b hb => by cases hb) limit rest
  rw [List.nil_append] at hdecode
  rw [hdecode, ← exists_head_iff safe hlength (bodyBytes m.content ++ rest)]
  constructor
  · rintro ⟨m', htaken⟩
    obtain ⟨head, body, hread, hbody, -, -, hbuffer⟩ := head_of_decodeHead (by simp) htaken
    rw [List.take_left] at hbuffer
    have hlengths := congrArg List.length (List.append_cancel_left hbuffer)
    rw [List.length_append, List.length_append] at hlengths
    exact ⟨head, hread, by omega⟩
  · rintro ⟨head, hread, hbody⟩
    refine ⟨head.message (bodyBytes m.content), ?_⟩
    rw [decodeHead_append hread hbody, if_pos (hsize ▸ hlimit)]

/-- A request with a header that states the given length, and with a body or none. -/
def stating (length : String) (content : Option Content) : Message :=
  .request
    { method := .stop, id := 1, content
      headers := [.ofText Catalogue.contentType "text/plain",
        .ofText Catalogue.contentLength length] }

/-- A line can carry any trimmed text for a length. -/
theorem stating_safe {length : String} (htrim : trim length = length)
    (hfeed : '\n' ∉ length.toList) {content : Option Content}
    (htype : ∀ c, content = some c → c.type = "text/plain") : (stating length content).LineSafe where
  isBounded := show 1 ≤ Natural.max64 by decide
  headers := by
    intro h hh
    rcases List.mem_pair.mp hh with rfl | rfl
    · exact ⟨by decide, by decide, by decide, by decide, by decide, by decide⟩
    · exact
        ⟨(by decide : Catalogue.contentLength ≠ ""),
          (by decide : trim Catalogue.contentLength = Catalogue.contentLength),
          (by decide : ':' ∉ Catalogue.contentLength.toList),
          (by decide : '\n' ∉ Catalogue.contentLength.toList), htrim, hfeed⟩
  trim_type c hc := by
    rw [htype c hc]
    decide
  lineFeed_notMem_type c hc := by
    rw [htype c hc]
    decide

/-- The reader takes a message with a body as it was written although a header states another
length: the last line counts. -/
theorem delimited_iff_overruled :
    (stating "+7" (some ⟨"text/plain", [1, 2]⟩)).Delimited ∧
      ∃ m', decode Natural.max64 ((stating "+7" (some ⟨"text/plain", [1, 2]⟩)).encode ++ [77, 82]) =
        (.ok (some m'), [77, 82]) := by
  have safe : (stating "+7" (some ⟨"text/plain", [1, 2]⟩)).LineSafe := by
    refine stating_safe (by decide) (by decide) fun c hc => ?_
    cases hc
    rfl
  have hdelimited : (stating "+7" (some ⟨"text/plain", [1, 2]⟩)).Delimited := by
    refine ⟨fun h hh => ?_, fun hnone => by cases hnone⟩
    obtain rfl := List.mem_singleton.mp (show h ∈ [Header.ofText Catalogue.contentLength "+7"] from hh)
    exact ⟨7, by decide⟩
  exact ⟨hdelimited,
    (delimited_iff safe (by decide +kernel) (by decide +kernel) [77, 82]).mpr hdelimited⟩

/-- Where a header states four bytes that are not there, the reader takes them of the message that
follows, or waits for them. -/
theorem stated_length_takes_next :
    (stating "4" none).LineSafe ∧
      (¬ ∃ m', decode Natural.max64 ((stating "4" none).encode ++ (noted []).encode) =
        (.ok (some m'), (noted []).encode)) ∧
      (decode Natural.max64 ((stating "4" none).encode ++ (noted []).encode)).2 =
        (noted []).encode.drop 4 ∧
      missingLength (stating "4" none).encode = 4 := by
  have hrest : (decode Natural.max64 ((stating "4" none).encode ++ (noted []).encode)).2 =
      (noted []).encode.drop 4 := by decide +kernel
  refine ⟨stating_safe (by decide) (by decide) fun c hc => (by cases hc), ?_, hrest, by decide +kernel⟩
  rintro ⟨m', htaken⟩
  rw [htaken] at hrest
  have hlengths : (noted []).encode.length = ((noted []).encode.drop 4).length :=
    congrArg List.length hrest
  exact absurd hlengths (by decide +kernel)

end Wire

end MediaControl
