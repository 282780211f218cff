import MediaControl.Proofs.Number.Read
import MediaControl.Proofs.Text.Tokens
import MediaControl.Proofs.Wire.Delimiting
import MediaControl.Proofs.Wire.HeadText

/-!
# The grammar of heads (SPEC_FULL §4.1)

What the reader of heads accepts, said without the reader: a start line is a list of words, every other
line is a field, the fields that give a length give numbers, and there is a type where there is a body.

Main statement: `head_grammar`, which says of every head whether it is read, and as what.
-/

set_option autoImplicit false

namespace MediaControl

open MediaControl.Text

namespace Wire

/-! ## Start lines -/

/-- The word is a number of 64 bits. -/
def IsCount (word : String) (n : Nat) : Prop :=
  Natural.IsNumeral word n ∧ n ≤ Natural.max64

/-- Three ASCII digits. -/
def IsThreeDigits (word : String) : Prop :=
  word.toList.length = 3 ∧ ∀ c ∈ word.toList, c.isDigit = true

namespace StartLine

/-- The words of a start line: the version, a length, and what tells the three kinds of messages
apart.  Methods, events and states are named in any case. -/
inductive Spells : List String → StartLine → Prop
  | request {length method id : String} {n i : Nat} {m : Method}
      (hlength : IsCount length n) (hmethod : sameCaseless (Vocabulary.wire m) method = true)
      (hid : IsCount id i) :
      Spells [protocolVersion, length, method, id] (.request m i)
  | response {length code id state : String} {n i : Nat} {status : Status} {s : RequestState}
      (hlength : IsCount length n) (hdigits : IsThreeDigits code)
      (hcode : Natural.IsNumeral code status.code) (hid : IsCount id i)
      (hstate : sameCaseless (Vocabulary.wire s) state = true) :
      Spells [protocolVersion, length, code, id, state] (.response status i s)
  | event {length name id state : String} {n i : Nat} {e : EventName} {s : RequestState}
      (hlength : IsCount length n) (hname : sameCaseless (Vocabulary.wire e) name = true)
      (hid : IsCount id i) (hstate : sameCaseless (Vocabulary.wire s) state = true) :
      Spells [protocolVersion, length, name, id, state] (.event e i s)

theorem isStatusWord_iff {word : String} : isStatusWord word = true ↔ IsThreeDigits word := by
  simp [isStatusWord, IsThreeDigits]

theorem readId_eq_ok_iff {line word : String} {n : Nat} :
    readId line word = .ok n ↔ IsCount word n := by
  rw [IsCount, ← Natural.read_eq_ok_iff, readId]
  split
  · rename_i id hid
    rw [hid, Except.ok.injEq, Except.ok.injEq]
  · rename_i fault hfault
    rw [hfault]
    exact iff_of_false (fun h => by cases h) (fun h => by cases h)

theorem readTerm_eq_ok_iff {α : Type} [Vocabulary α] [LawfulVocabulary α] {line word : String}
    {term : α} : readTerm line word = .ok term ↔
      sameCaseless (Vocabulary.wire term) word = true := by
  rw [← Vocabulary.ofWire_eq_ok_iff, readTerm]
  split
  · rename_i other hother
    rw [hother, Except.ok.injEq, Except.ok.injEq]
  · rename_i unknown hunknown
    rw [hunknown]
    exact iff_of_false (fun h => by cases h) (fun h => by cases h)

theorem isStatusWord_congr {a b : String} (h : sameCaseless a b = true) :
    isStatusWord a = isStatusWord b := by
  have hlower : ∀ word : String, isStatusWord word =
      ((lowerChars word.toList).length == 3 && (lowerChars word.toList).all Char.isDigit) := by
    intro word
    have hdigit : (Char.isDigit ∘ Char.toLower) = Char.isDigit := funext isDigit_toLower
    rw [isStatusWord, lowerChars, List.length_map, List.all_map, hdigit]
  rw [hlower a, hlower b, sameCaseless_iff.mp h]

theorem isStatusWord_of_event {e : EventName} {word : String}
    (h : sameCaseless (Vocabulary.wire e) word = true) : isStatusWord word = false :=
  (isStatusWord_congr h).symm.trans (isStatusWord_event e)

theorem code_le_of_isThreeDigits {word : String} {code : Nat} (hdigits : IsThreeDigits word)
    (hcode : Natural.IsNumeral word code) : code ≤ 999 := by
  have hread : Natural.read code word = .ok code :=
    Natural.read_eq_ok_iff.mpr ⟨hcode, Nat.le_refl _⟩
  have hcount : digitCount code ≤ 3 := hdigits.1 ▸ Natural.digitCount_le_of_read hread
  have hlt : code < 1000 := (digitCount_le_iff (by decide)).mp hcount
  omega

theorem bind_eq_ok_iff {ε α β : Type} {x : Except ε α} {f : α → Except ε β} {b : β} :
    (x >>= f) = .ok b ↔ ∃ a, x = .ok a ∧ f a = .ok b := by
  refine ⟨exists_of_bind_eq_ok, ?_⟩
  rintro ⟨a, rfl, h⟩
  exact h

/-- A start line is read exactly if its words are those of one. -/
theorem read_eq_ok_iff {line : String} {s : StartLine} :
    read line = .ok s ↔ Spells (words line) s := by
  unfold read
  generalize words line = spoken
  constructor
  · intro h
    split at h
    · cases h
    · rename_i version rest
      split at h
      · cases h
      · rename_i hversion
        obtain rfl := not_not.mp hversion
        split at h
        · cases h
        · rename_i length rest
          obtain ⟨n, hlength, h⟩ := exists_of_bind_eq_ok h
          rw [readId_eq_ok_iff] at hlength
          unfold readTail at h
          split at h
          · rename_i method id
            obtain ⟨m, hmethod, h⟩ := exists_of_bind_eq_ok h
            obtain ⟨i, hid, h⟩ := exists_of_bind_eq_ok h
            obtain rfl := Except.ok.inj h
            exact .request hlength (readTerm_eq_ok_iff.mp hmethod) (readId_eq_ok_iff.mp hid)
          · rename_i third id state
            split at h
            · rename_i hdigits
              obtain ⟨code, hcode, h⟩ := exists_of_bind_eq_ok h
              obtain ⟨i, hid, h⟩ := exists_of_bind_eq_ok h
              obtain ⟨s, hstate, h⟩ := exists_of_bind_eq_ok h
              obtain rfl := Except.ok.inj h
              exact .response hlength (isStatusWord_iff.mp hdigits) (readId_eq_ok_iff.mp hcode).1
                (readId_eq_ok_iff.mp hid) (readTerm_eq_ok_iff.mp hstate)
            · obtain ⟨e, hname, h⟩ := exists_of_bind_eq_ok h
              obtain ⟨i, hid, h⟩ := exists_of_bind_eq_ok h
              obtain ⟨s, hstate, h⟩ := exists_of_bind_eq_ok h
              obtain rfl := Except.ok.inj h
              exact .event hlength (readTerm_eq_ok_iff.mp hname) (readId_eq_ok_iff.mp hid)
                (readTerm_eq_ok_iff.mp hstate)
          · cases h
  · intro h
    cases h with
    | @request length method id n i m hlength hmethod hid =>
        simp only [ne_eq, not_true_eq_false, if_false, readTail, bind_eq_ok_iff, readId_eq_ok_iff]
        exact ⟨n, hlength, m, readTerm_eq_ok_iff.mpr hmethod, i, hid, rfl⟩
    | @response length code id state n i status s hlength hdigits hcode hid hstate =>
        have hvalue : IsCount code status.code := by
          refine ⟨hcode, Nat.le_trans ?_ (show 999 ≤ Natural.max64 by decide)⟩
          exact code_le_of_isThreeDigits hdigits hcode
        simp only [ne_eq, not_true_eq_false, if_false, readTail, isStatusWord_iff.mpr hdigits, if_true,
          bind_eq_ok_iff, readId_eq_ok_iff]
        exact ⟨n, hlength, status.code, hvalue, i, hid, s, readTerm_eq_ok_iff.mpr hstate, rfl⟩
    | @event length name id state n i e s hlength hname hid hstate =>
        simp only [ne_eq, not_true_eq_false, if_false, readTail, isStatusWord_of_event hname,
          Bool.false_eq_true, bind_eq_ok_iff, readId_eq_ok_iff]
        exact ⟨n, hlength, e, readTerm_eq_ok_iff.mpr hname, i, hid, s, readTerm_eq_ok_iff.mpr hstate,
          rfl⟩

end StartLine

/-! ## Fields -/

namespace Head

/-- The line is that of the header: a name, which is not blank, the first colon and a text, without
the blanks around the two. -/
def IsField (line : String) (h : Header) : Prop :=
  ∃ name value : List Char, line.toList = name ++ ':' :: value ∧ ':' ∉ name ∧
    trim (String.ofList name) ≠ "" ∧
    h = .ofText (trim (String.ofList name)) (trim (String.ofList value))

/-- The line of a header is read as one, or as a length, if the name says so. -/
theorem readLine_of_isField {line : String} {h : Header} (hfield : IsField line h) :
    readLine line = ofHeader h := by
  obtain ⟨name, value, hline, hcolon, hne, rfl⟩ := hfield
  have hname : ∀ c ∈ name, decide (c ≠ ':') = true := fun c hc =>
    decide_eq_true fun heq => hcolon (heq ▸ hc)
  have hbefore : line.toList.takeWhile (· ≠ ':') = name := by
    rw [hline, List.takeWhile_append_of_pos hname]
    simp
  have hbehind : line.toList.dropWhile (· ≠ ':') = ':' :: value := by
    rw [hline, List.dropWhile_append_of_pos hname]
    simp
  simp only [readLine, hbefore, hbehind, if_neg hne, ofHeader, Header.hasName, Header.plain,
    Header.ofText]
  cases Natural.read Natural.max64 (trim (String.ofList value)) with
  | error fault => rfl
  | ok n => rfl

/-- A line that is read is that of a header. -/
theorem isField_of_readLine {line : String} {l : Line} (h : readLine line = .ok l) :
    ∃ field, IsField line field := by
  unfold readLine at h
  simp only at h
  split at h
  · cases h
  · rename_i colon value hbehind
    split at h
    · cases h
    · rename_i hne
      have hcolon : colon = ':' := by
        have hfirst := List.head?_dropWhile_not (fun c : Char => c ≠ ':') line.toList
        rw [hbehind] at hfirst
        simpa using hfirst
      have hline : line.toList = line.toList.takeWhile (· ≠ ':') ++ ':' :: value := by
        rw [hcolon] at hbehind
        rw [← hbehind, List.takeWhile_append_dropWhile]
      refine ⟨_, line.toList.takeWhile (· ≠ ':'), value, hline, fun hmem => ?_, hne, rfl⟩
      simpa using List.mem_takeWhile_imp hmem

/-- Lines that are read are those of headers. -/
theorem isField_of_readLines {lines : List String} {before : List Header} {length : Option Nat}
    {said : Headers × Option Nat} (h : readLines before length lines = .ok said) :
    ∃ fields, List.Forall₂ IsField lines fields := by
  induction lines generalizing before length with
  | nil => exact ⟨[], .nil⟩
  | cons line lines ih =>
      have hread : ∃ l, readLine line = .ok l ∧
          ∃ before' length', readLines before' length' lines = .ok said := by
        rw [readLines] at h
        split at h
        · exact ⟨_, ‹_›, _, _, h⟩
        · exact ⟨_, ‹_›, _, _, h⟩
        · cases h
      obtain ⟨l, hl, before', length', hrest⟩ := hread
      obtain ⟨field, hfield⟩ := isField_of_readLine hl
      obtain ⟨fields, hfields⟩ := ih hrest
      exact ⟨field :: fields, .cons hfield hfields⟩

end Head

end Wire

namespace Headers

/-- Headers state a length exactly if one of them is named so; the last of these counts. -/
def States (hs : Headers) : Option Nat → Prop
  | none => Headers.lengths hs = []
  | some n => ∃ h, (Headers.lengths hs).getLast? = some h ∧ Wire.IsCount h.raw n

/-- No headers state two lengths. -/
theorem States.unique {hs : Headers} {a b : Option Nat} (ha : Headers.States hs a)
    (hb : Headers.States hs b) : a = b := by
  cases a with
  | none =>
      cases b with
      | none => rfl
      | some n =>
          obtain ⟨h, hlast, -⟩ := hb
          rw [show Headers.lengths hs = [] from ha] at hlast
          cases hlast
  | some m =>
      obtain ⟨h, hlast, hm⟩ := ha
      cases b with
      | none =>
          rw [show Headers.lengths hs = [] from hb] at hlast
          cases hlast
      | some n =>
          obtain ⟨h', hlast', hn⟩ := hb
          obtain rfl := Option.some.inj (hlast.symm.trans hlast')
          rw [Wire.IsCount, ← Natural.read_eq_ok_iff] at hm hn
          exact congrArg some (Except.ok.inj (hm.symm.trans hn))

/-- Headers state a length or none, if those that should give one do. -/
theorem exists_states {hs : Headers}
    (h : ∀ h ∈ hs, h.hasName Catalogue.contentLength = true → ∃ n, Wire.IsCount h.raw n) :
    ∃ stated, Headers.States hs stated := by
  cases hlast : (Headers.lengths hs).getLast? with
  | none => exact ⟨none, List.getLast?_eq_none_iff.mp hlast⟩
  | some last =>
      obtain ⟨hmem, hname⟩ := List.mem_filter.mp (List.mem_of_getLast? hlast)
      obtain ⟨n, hn⟩ := h last hmem hname
      exact ⟨some n, last, hlast, hn⟩

/-- The headers without those that give a length. -/
def withoutLengths (hs : Headers) : Headers :=
  hs.filter fun h => !h.hasName Catalogue.contentLength

theorem statedLength_eq_ok_iff_states {hs : Headers} {stated : Option Nat} :
    Headers.statedLength none hs = .ok stated ↔
      (∀ h ∈ Headers.lengths hs, ∃ n, Wire.IsCount h.raw n) ∧ Headers.States hs stated := by
  simp only [statedLength_eq_ok_iff, LengthsReadable, Wire.IsCount, ← Natural.read_eq_ok_iff]
  refine and_congr_right fun _ => ?_
  cases hlast : (Headers.lengths hs).getLast? with
  | none =>
      rw [List.getLast?_eq_none_iff] at hlast
      cases stated <;> simp [States, hlast]
  | some h =>
      have hne : Headers.lengths hs ≠ [] := by
        rintro hnil
        rw [hnil] at hlast
        cases hlast
      cases stated with
      | none => simp [States, hne]
      | some n =>
          simp only [States, Wire.IsCount, ← Natural.read_eq_ok_iff, hlast, Option.some.injEq]
          constructor
          · rintro ⟨n, hn, rfl⟩
            exact ⟨h, rfl, hn⟩
          · rintro ⟨h, rfl, hn⟩
            exact ⟨n, hn, rfl⟩

end Headers

namespace Wire

/-! ## Bodies -/

namespace Head

/-- What becomes of headers and a length that was stated: the first header that names a type is taken
out as that of the body, and there must be one if the body is not empty.  Where no length was stated
there is no body, and all headers stay. -/
inductive Settles : Headers → Option Nat → Headers → Option String → Prop
  | unstated (hs : Headers) : Settles hs none hs none
  | typed {before behind : Headers} {h : Header} (n : Nat)
      (hfirst : ∀ other ∈ before, other.hasName Catalogue.contentType = false)
      (hname : h.hasName Catalogue.contentType = true) :
      Settles (before ++ h :: behind) (some n) (before ++ behind) (some h.raw)
  | typeless {hs : Headers} (hnone : ∀ h ∈ hs, h.hasName Catalogue.contentType = false) :
      Settles hs (some 0) hs none

/-- The first header that names a type is found and taken out. -/
theorem get?_and_erase_of_first {before behind : Headers} {h : Header} {name : String}
    (hfirst : ∀ other ∈ before, other.hasName name = false) (hname : h.hasName name = true) :
    Headers.get? (before ++ h :: behind) name = some h ∧
      Headers.erase (before ++ h :: behind) name = before ++ behind := by
  refine ⟨List.find?_eq_some_iff_append.mpr ⟨hname, before, behind, rfl, ?_⟩, ?_⟩
  · intro other hother
    rw [hfirst other hother]
    rfl
  · have hpass : ∀ other ∈ before, ¬ other.hasName name = true := fun other hother => by
      rw [hfirst other hother]
      exact Bool.false_ne_true
    rw [Headers.erase, List.eraseP_append_right _ hpass]
    exact congrArg (before ++ ·) (List.eraseP_cons_of_pos hname)

theorem settleContent_eq_ok_iff {start : StartLine} {hs : Headers} {stated : Option Nat}
    {head : Head} : settleContent start hs stated = .ok head ↔
      head.start = start ∧ head.contentLength = stated ∧
        Settles hs stated head.headers head.contentType := by
  constructor
  · intro h
    cases stated with
    | none =>
        obtain rfl := Except.ok.inj h
        exact ⟨rfl, rfl, .unstated hs⟩
    | some n =>
        rw [settleContent] at h
        split at h
        · rename_i type hget
          obtain ⟨hname, before, behind, rfl, hpass⟩ := List.find?_eq_some_iff_append.mp hget
          have hfirst : ∀ other ∈ before, other.hasName Catalogue.contentType = false :=
            fun other hother => by simpa using hpass other hother
          rw [(get?_and_erase_of_first hfirst hname).2] at h
          obtain rfl := Except.ok.inj h
          exact ⟨rfl, rfl, .typed n hfirst hname⟩
        · rename_i hget
          split at h
          · cases h
          · rename_i hzero
            obtain rfl : n = 0 := Nat.eq_zero_of_not_pos hzero
            obtain rfl := Except.ok.inj h
            exact ⟨rfl, rfl, .typeless fun type htype => by
              simpa using List.find?_eq_none.mp hget type htype⟩
  · obtain ⟨start', hs', type', length'⟩ := head
    rintro ⟨rfl, rfl, hsettles⟩
    cases hsettles with
    | unstated => rfl
    | typed n hfirst hname =>
        obtain ⟨hget, herase⟩ := get?_and_erase_of_first hfirst hname
        rw [settleContent, hget, herase]
        rfl
    | typeless hnone =>
        have hget : Headers.get? hs' Catalogue.contentType = none :=
          List.find?_eq_none.mpr fun h hh => by
            rw [hnone h hh]
            exact Bool.false_ne_true
        simp [settleContent, hget]

/-- Headers and a length settle, if there is a type where there is a body. -/
theorem exists_settles {hs : Headers} {stated : Option Nat}
    (h : ∀ n, stated = some n → 0 < n → ∃ h ∈ hs, h.hasName Catalogue.contentType = true) :
    ∃ left type, Settles hs stated left type := by
  cases stated with
  | none => exact ⟨hs, none, .unstated hs⟩
  | some n =>
      cases hget : Headers.get? hs Catalogue.contentType with
      | some type =>
          obtain ⟨hname, before, behind, rfl, hpass⟩ := List.find?_eq_some_iff_append.mp hget
          exact ⟨_, _, .typed n (fun other hother => by simpa using hpass other hother) hname⟩
      | none =>
          have hnone : ∀ h ∈ hs, h.hasName Catalogue.contentType = false := fun type htype => by
            simpa using List.find?_eq_none.mp hget type htype
          obtain rfl : n = 0 := by
            refine Nat.eq_zero_of_not_pos fun hpos => ?_
            obtain ⟨type, htype, hname⟩ := h n rfl hpos
            exact Bool.noConfusion (hname.symm.trans (hnone type htype))
          exact ⟨hs, none, .typeless hnone⟩

end Head

/-! ## Heads -/

namespace HeadText

variable (t : HeadText)

/-- The lines of the head are a start line and fields, and every field with the name of a length gives
one. -/
structure Parses (start : StartLine) (fields : Headers) : Prop where
  spells : StartLine.Spells (words t.startLine) start
  isField : List.Forall₂ Head.IsField t.fieldLines fields
  lengths : ∀ h ∈ fields, h.hasName Catalogue.contentLength = true → ∃ n, IsCount h.raw n

/-- The head has its parts, and a type for its body, if that is not empty. -/
def IsGrammatical : Prop :=
  ∃ start fields, t.Parses start fields ∧
    ∀ n, Headers.States fields (some n) → 0 < n →
      ∃ h ∈ fields, h.hasName Catalogue.contentType = true

/-- What the head says by its fields. -/
structure Says (head : Head) (fields : Headers) : Prop where
  parses : t.Parses head.start fields
  states : Headers.States fields head.contentLength
  bodyLength : head.bodyLength = head.contentLength.getD 0
  settles : Head.Settles (Headers.withoutLengths fields) head.contentLength head.headers
    head.contentType

variable {t}

/-- Fields are shown as their lines say them. -/
theorem Parses.shown {start : StartLine} {fields : Headers} (h : t.Parses start fields) :
    Headers.shown fields = Headers.withoutLengths fields := by
  have hboth : List.Forall₂ (fun field line => field.plain = field ∧ Head.IsField line field)
      fields t.fieldLines := by
    refine List.Forall₂.flip (h.isField.imp fun line field hfield => ⟨?_, hfield⟩)
    obtain ⟨name, value, -, -, -, rfl⟩ := hfield
    rfl
  have hplain := ((List.forall₂_and_left fields t.fieldLines).mp hboth).1
  rw [Headers.shown, Headers.withoutLengths]
  exact (List.map_congr_left fun field hmem => hplain field (List.mem_of_mem_filter hmem)).trans
    (List.map_id' _)

/-- A header that names a type gives no length. -/
theorem mem_withoutLengths {fields : Headers} {h : Header} (hmem : h ∈ fields)
    (hname : h.hasName Catalogue.contentType = true) : h ∈ Headers.withoutLengths fields := by
  have hother : sameCaseless Catalogue.contentType Catalogue.contentLength = false := by decide
  refine List.mem_filter.mpr ⟨hmem, ?_⟩
  cases hlength : h.hasName Catalogue.contentLength with
  | false => rfl
  | true =>
      rw [Header.hasName, sameCaseless_comm] at hname
      rw [sameCaseless_trans hname hlength] at hother
      cases hother

variable (t)

/-- What is read of the text of a head: what its lines make it say, and only that. -/
theorem read_text_eq_ok_iff (head : Head) :
    Head.read t.text = .ok head ↔ ∃ fields, t.Says head fields := by
  rw [Head.read, lines_text]
  simp only [StartLine.bind_eq_ok_iff, StartLine.read_eq_ok_iff]
  constructor
  · rintro ⟨start, hstart, ⟨hs, stated⟩, hread, hsettle⟩
    obtain ⟨fields, hfields⟩ := Head.isField_of_readLines hread
    rw [Headers.readLines_eq (hfields.imp fun _ _ => Head.readLine_of_isField)] at hread
    cases hstated : Headers.statedLength none fields with
    | error fault =>
        rw [hstated] at hread
        cases hread
    | ok length =>
        rw [hstated] at hread
        obtain ⟨rfl, rfl⟩ := Prod.mk.inj (Except.ok.inj hread)
        obtain ⟨hlengths, hstates⟩ := Headers.statedLength_eq_ok_iff_states.mp hstated
        obtain ⟨rfl, rfl, hsettles⟩ := Head.settleContent_eq_ok_iff.mp hsettle
        have hparses : t.Parses head.start fields :=
          ⟨hstart, hfields, fun h hmem hname => hlengths h (List.mem_filter.mpr ⟨hmem, hname⟩)⟩
        rw [List.reverse_nil, List.nil_append, hparses.shown] at hsettles
        exact ⟨fields, hparses, hstates, rfl, hsettles⟩
  · rintro ⟨fields, hparses, hstates, -, hsettles⟩
    have hlengths : ∀ h ∈ Headers.lengths fields, ∃ n, IsCount h.raw n := fun h hmem =>
      hparses.lengths h (List.mem_filter.mp hmem).1 (List.mem_filter.mp hmem).2
    refine ⟨head.start, hparses.spells, (Headers.withoutLengths fields, head.contentLength), ?_,
      Head.settleContent_eq_ok_iff.mpr ⟨rfl, rfl, hsettles⟩⟩
    rw [Headers.readLines_eq (hparses.isField.imp fun _ _ => Head.readLine_of_isField),
      Headers.statedLength_eq_ok_iff_states.mpr ⟨hlengths, hstates⟩, hparses.shown]
    rfl

/-- A head says something exactly if it has its parts. -/
theorem exists_says_iff : (∃ head fields, t.Says head fields) ↔ t.IsGrammatical := by
  constructor
  · rintro ⟨⟨start, left, type, stated⟩, fields, hparses, hstates, -, hsettles⟩
    refine ⟨start, fields, hparses, fun n hn hpos => ?_⟩
    obtain rfl : stated = some n := Headers.States.unique hstates hn
    generalize hshown : Headers.withoutLengths fields = shown at hsettles
    cases hsettles with
    | @typed before behind h _ _ hname =>
        have hmem : h ∈ Headers.withoutLengths fields := by rw [hshown]; simp
        exact ⟨h, List.mem_of_mem_filter hmem, hname⟩
    | typeless => exact absurd hpos (Nat.lt_irrefl 0)
  · rintro ⟨start, fields, hparses, htyped⟩
    obtain ⟨stated, hstates⟩ := Headers.exists_states hparses.lengths
    have htype : ∀ n, stated = some n → 0 < n →
        ∃ h ∈ Headers.withoutLengths fields, h.hasName Catalogue.contentType = true := by
      rintro n rfl hpos
      obtain ⟨h, hmem, hname⟩ := htyped n hstates hpos
      exact ⟨h, mem_withoutLengths hmem hname, hname⟩
    obtain ⟨hs, type, hsettles⟩ := Head.exists_settles htype
    exact ⟨⟨start, hs, type, stated⟩, fields, hparses, hstates, rfl, hsettles⟩

end HeadText

/-- The head at the front of a stream is found, it is read exactly if it is grammatical, and what is
read is what its lines say, whatever follows it. -/
theorem head_grammar (t : HeadText) (rest : Bytes) :
    headLength (t.bytes ++ rest) = some t.bytes.length ∧
      ((∃ head, readHead t.bytes.length (t.bytes ++ rest) = .ok head) ↔ t.IsGrammatical) ∧
      ∀ head, readHead t.bytes.length (t.bytes ++ rest) = .ok head ↔
        ∃ fields, t.Says head fields := by
  have hread : ∀ head, readHead t.bytes.length (t.bytes ++ rest) = .ok head ↔
      ∃ fields, t.Says head fields := by
    intro head
    rw [readHead, List.take_left, HeadText.bytes, Utf8.decode_encode]
    exact t.read_text_eq_ok_iff head
  refine ⟨t.headLength_bytes rest, ?_, hread⟩
  simp only [hread]
  exact t.exists_says_iff

end Wire

end MediaControl
