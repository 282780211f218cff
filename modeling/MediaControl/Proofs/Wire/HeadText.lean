import MediaControl.Proofs.Wire.HeadLines

/-!
# What a head is

A head is a text: lines that are not empty once a carriage return at their end is taken away, each with
a line feed, and then the first line of which nothing is left.  Two readers find these lines: one looks
for the end of the head among the bytes of a stream, the other cuts the text of the head into lines.

Main statements: `HeadText.headLength_bytes` (the one finds the end), `HeadText.lines_text` (the other
finds the lines) and `HeadText.exists_of_headLength` (whatever was found by the one is such a head, if
it is a text at all).
-/

set_option autoImplicit false

namespace MediaControl.Wire

/-! ## Lines of bytes -/

/-- Bytes that do not end the line are passed over. -/
theorem headLengthFrom_pass {line : Bytes} (hline : (10 : UInt8) ∉ line) (seen : Nat)
    (state : LineState) (rest : Bytes) :
    headLengthFrom seen state (line ++ rest) =
      headLengthFrom (seen + line.length) (line.foldl LineState.after state) rest := by
  induction line generalizing seen state with
  | nil => rfl
  | cons b line ih =>
      have hb : b ≠ 10 := fun heq => hline (heq ▸ List.mem_cons_self ..)
      have hlength : seen + (b :: line).length = seen + 1 + line.length := by
        rw [List.length_cons]
        omega
      rw [List.cons_append, headLengthFrom_cons hb, hlength, List.foldl_cons]
      exact ih (fun hmem => hline (List.mem_cons_of_mem _ hmem)) _ _

/-- A line is one that says something, unless it is empty or a lone carriage return. -/
theorem foldl_after_eq_inside_iff {line : Bytes} :
    line.foldl LineState.after .start = .inside ↔ line ≠ [] ∧ line ≠ [13] := by
  have hstays : ∀ others : Bytes, others.foldl LineState.after .inside = .inside := by
    intro others
    induction others with
    | nil => rfl
    | cons b others ih => simpa [LineState.after] using ih
  cases line with
  | nil => simp
  | cons b others =>
      cases others with
      | nil => by_cases hb : b = 13 <;> simp [LineState.after, hb]
      | cons d others =>
          have hsecond : LineState.after (LineState.after .start b) d = .inside := by
            by_cases hb : b = 13 <;> simp [LineState.after, hb]
          rw [List.foldl_cons, List.foldl_cons, hsecond, hstays]
          simp

/-- The bytes of lines, each with a line feed. -/
def feedLines (lines : List Bytes) : Bytes := lines.flatMap fun line => line ++ [10]

@[simp] theorem feedLines_nil : feedLines [] = [] := rfl

@[simp] theorem feedLines_cons (line : Bytes) (lines : List Bytes) :
    feedLines (line :: lines) = line ++ 10 :: feedLines lines := by
  simp [feedLines]

/-- A line of a head that is not its last one. -/
structure IsHeadLine (line : Bytes) : Prop where
  lineFeed_notMem : (10 : UInt8) ∉ line
  ne_nil : line ≠ []
  ne_return : line ≠ [13]

/-- The end of a head is found behind its lines. -/
theorem headLengthFrom_feedLines {lines : List Bytes} (hlines : ∀ line ∈ lines, IsHeadLine line)
    {blank : Bytes} (hblank : blank = [] ∨ blank = [13]) (seen : Nat) (rest : Bytes) :
    headLengthFrom seen .start (feedLines lines ++ (blank ++ 10 :: rest)) =
      some (seen + (feedLines lines ++ (blank ++ [10])).length) := by
  induction lines generalizing seen with
  | nil => rcases hblank with rfl | rfl <;> rfl
  | cons line lines ih =>
      have hline := hlines line (List.mem_cons_self ..)
      have hinside := foldl_after_eq_inside_iff.mpr ⟨hline.ne_nil, hline.ne_return⟩
      rw [feedLines_cons, List.append_assoc, headLengthFrom_pass hline.lineFeed_notMem, hinside,
        List.cons_append, headLengthFrom_lineFeed, if_pos rfl,
        ih (fun other hother => hlines other (List.mem_cons_of_mem _ hother))]
      simp only [List.length_append, List.length_cons, List.length_nil, Option.some.injEq]
      omega

/-- Where the end of a head is found there are its lines before it. -/
theorem exists_lines_of_headLengthFrom {seen n : Nat} {bytes : Bytes}
    (h : headLengthFrom seen .start bytes = some n) :
    ∃ lines blank rest, bytes = feedLines lines ++ (blank ++ 10 :: rest) ∧
      n = seen + (feedLines lines ++ (blank ++ [10])).length ∧
      (∀ line ∈ lines, IsHeadLine line) ∧ (blank = [] ∨ blank = [13]) := by
  induction hsize : bytes.length using Nat.strongRecOn generalizing bytes seen with
  | _ size ih =>
      -- the first line, and what is behind it
      obtain ⟨line, behind, hline, rfl, hbehind⟩ : ∃ line behind : Bytes, (10 : UInt8) ∉ line ∧
          bytes = line ++ behind ∧ ∀ b ∈ behind.head?, b = 10 := by
        refine ⟨bytes.takeWhile (· ≠ 10), bytes.dropWhile (· ≠ 10), fun hmem => ?_,
          List.takeWhile_append_dropWhile.symm, fun b hb => ?_⟩
        · simpa using List.mem_takeWhile_imp hmem
        · have hfirst := List.head?_dropWhile_not (fun b : UInt8 => b ≠ 10) bytes
          rw [Option.mem_def] at hb
          rw [hb] at hfirst
          simpa using hfirst
      rw [headLengthFrom_pass hline] at h
      cases behind with
      | nil => simp [headLengthFrom] at h
      | cons b rest =>
          obtain rfl := hbehind b rfl
          rw [headLengthFrom_lineFeed] at h
          split at h
          · rename_i hinside
            obtain ⟨hnil, hreturn⟩ := foldl_after_eq_inside_iff.mp hinside
            have hlt : rest.length < size := by
              rw [← hsize, List.length_append, List.length_cons]
              omega
            obtain ⟨lines, blank, left, rfl, rfl, hlines, hblank⟩ := ih _ hlt h rfl
            refine ⟨line :: lines, blank, left, by simp, ?_, ?_, hblank⟩
            · simp only [feedLines_cons, List.length_append, List.length_cons]
              omega
            · exact List.forall_mem_cons.mpr ⟨⟨hline, hnil, hreturn⟩, hlines⟩
          · rename_i hblank
            obtain rfl := Option.some.inj h
            refine ⟨[], line, rest, rfl, ?_, by simp, ?_⟩
            · simp only [feedLines_nil, List.nil_append, List.length_append, List.length_cons,
                List.length_nil]
              omega
            · rw [foldl_after_eq_inside_iff, not_and_or, not_not, not_not] at hblank
              exact hblank

/-! ## Lines of characters -/

/-- Nothing is left of a line that is empty or a lone carriage return. -/
theorem Head.dropReturn_eq_nil_iff {line : List Char} :
    Head.dropReturn line = [] ↔ line = [] ∨ line = ['\r'] := by
  constructor
  · intro h
    unfold Head.dropReturn at h
    split at h
    · rename_i hlast
      obtain ⟨front, rfl⟩ := List.getLast?_eq_some_iff.mp hlast
      rw [List.dropLast_concat] at h
      exact Or.inr (by rw [h]; rfl)
    · exact Or.inl h
  · rintro (rfl | rfl) <;> rfl

/-- The bytes of a line of a head are such a line. -/
theorem isHeadLine_flatMap {line : List Char} :
    IsHeadLine (line.flatMap String.utf8EncodeChar) ↔ '\n' ∉ line ∧ Head.dropReturn line ≠ [] := by
  have hbytes : line.flatMap String.utf8EncodeChar = Utf8.encode (String.ofList line) := by
    rw [Utf8.encode, String.toList_ofList]
  constructor
  · rintro ⟨hfeed, hnil, hreturn⟩
    refine ⟨fun hmem => hfeed (List.mem_flatMap.mpr ⟨'\n', hmem, by decide⟩), ?_⟩
    rw [ne_eq, Head.dropReturn_eq_nil_iff]
    rintro (rfl | rfl)
    · exact hnil rfl
    · exact hreturn (by decide)
  · rintro ⟨hfeed, hspeaks⟩
    refine ⟨?_, fun hnil => ?_, fun hreturn => ?_⟩
    · rw [hbytes]
      exact Utf8.lineFeed_notMem_encode (by rwa [String.toList_ofList])
    · exact hspeaks (Head.nothing_of_blank (Or.inl hnil)).2
    · exact hspeaks (Head.nothing_of_blank (Or.inr hreturn)).2

/-- The characters of lines, each with a line feed. -/
def feedChars (lines : List (List Char)) : List Char := lines.flatMap fun line => line ++ ['\n']

@[simp] theorem feedChars_cons (line : List Char) (lines : List (List Char)) :
    feedChars (line :: lines) = line ++ '\n' :: feedChars lines := by
  simp [feedChars]

/-- The bytes of lines are lines of bytes. -/
theorem flatMap_feedChars (lines : List (List Char)) :
    (feedChars lines).flatMap String.utf8EncodeChar =
      feedLines (lines.map fun line => line.flatMap String.utf8EncodeChar) := by
  have hfeed : String.utf8EncodeChar '\n' = [10] := by decide
  induction lines with
  | nil => rfl
  | cons line lines ih =>
      rw [feedChars_cons, List.flatMap_append, List.flatMap_cons, hfeed, ih, List.map_cons,
        feedLines_cons, List.singleton_append]

/-- A text whose bytes are lines is made of lines. -/
theorem exists_lines_of_feedLines {s : List Char} {lines : List Bytes} {blank : Bytes}
    (h : s.flatMap String.utf8EncodeChar = feedLines lines ++ (blank ++ [10])) :
    ∃ parts last, s = feedChars parts ++ (last ++ ['\n']) ∧
      (parts.map fun part => part.flatMap String.utf8EncodeChar) = lines ∧
      last.flatMap String.utf8EncodeChar = blank := by
  induction lines generalizing s with
  | nil =>
      obtain ⟨last, behind, rfl, hlast, hbehind⟩ := Utf8.split_lineFeed h
      have hnone : behind = [] := by
        have hsize : Text.size behind = 0 := congrArg List.length hbehind
        exact List.length_eq_zero_iff.mp (Nat.le_zero.mp (hsize ▸ Text.length_le_size behind))
      exact ⟨[], last, by rw [hnone]; rfl, rfl, hlast⟩
  | cons line lines ih =>
      rw [feedLines_cons, List.append_assoc, List.cons_append] at h
      obtain ⟨part, behind, rfl, hpart, hbehind⟩ := Utf8.split_lineFeed h
      obtain ⟨parts, last, rfl, hparts, hlast⟩ := ih hbehind
      exact ⟨part :: parts, last, by simp, by rw [List.map_cons, hpart, hparts], hlast⟩

/-! ## Heads -/

/-- The text of a head: lines with something in them and then one with nothing in it, where a carriage
return at the end of a line does not count. -/
structure HeadText where
  first : List Char
  others : List (List Char)
  blank : List Char
  lineFeed_notMem : ∀ line ∈ first :: others, '\n' ∉ line
  ne_empty : ∀ line ∈ first :: others, Head.dropReturn line ≠ []
  blank_eq : blank = [] ∨ blank = ['\r']

namespace HeadText

variable (t : HeadText)

/-- The text, every line with its line feed. -/
def text : String := String.ofList (feedChars (t.first :: t.others) ++ (t.blank ++ ['\n']))

/-- The text in bytes. -/
def bytes : Bytes := Utf8.encode t.text

/-- The first line without its end. -/
def startLine : String := String.ofList (Head.dropReturn t.first)

/-- The other lines without their ends, the empty one apart. -/
def fieldLines : List String := t.others.map fun line => String.ofList (Head.dropReturn line)

theorem bytes_eq : t.bytes =
    feedLines ((t.first :: t.others).map fun line => line.flatMap String.utf8EncodeChar) ++
      (t.blank.flatMap String.utf8EncodeChar ++ [10]) := by
  have hfeed : ['\n'].flatMap String.utf8EncodeChar = [10] := by decide
  rw [bytes, Utf8.encode, text, String.toList_ofList, List.flatMap_append, List.flatMap_append,
    flatMap_feedChars, hfeed]

/-- The end of the head is found in a stream that begins with it. -/
theorem headLength_bytes (rest : Bytes) : headLength (t.bytes ++ rest) = some t.bytes.length := by
  have hlines : ∀ line ∈ (t.first :: t.others).map fun line => line.flatMap String.utf8EncodeChar,
      IsHeadLine line := by
    intro line hline
    obtain ⟨chars, hchars, rfl⟩ := List.mem_map.mp hline
    exact isHeadLine_flatMap.mpr ⟨t.lineFeed_notMem chars hchars, t.ne_empty chars hchars⟩
  have hblank : t.blank.flatMap String.utf8EncodeChar = [] ∨
      t.blank.flatMap String.utf8EncodeChar = [13] :=
    t.blank_eq.imp (fun h => by rw [h]; rfl) (fun h => by rw [h]; decide)
  rw [headLength, bytes_eq, List.append_assoc, List.append_assoc, List.singleton_append,
    headLengthFrom_feedLines hlines hblank, Nat.zero_add]

/-- The lines between line feeds. -/
theorem splitOnP_feedChars {lines : List (List Char)} (hlines : ∀ line ∈ lines, '\n' ∉ line)
    (rest : List Char) :
    (feedChars lines ++ rest).splitOnP (· = '\n') = lines ++ rest.splitOnP (· = '\n') := by
  induction lines with
  | nil => rfl
  | cons line lines ih =>
      rw [feedChars_cons, List.append_assoc, List.cons_append,
        Text.splitOnP_append_of_notMem (hlines line (List.mem_cons_self ..)),
        ih fun other hother => hlines other (List.mem_cons_of_mem _ hother)]
      rfl

/-- The lines of the head are found in its text. -/
theorem lines_text : Head.lines t.text = t.startLine :: t.fieldLines := by
  have hblank : (t.blank ++ ['\n']).splitOnP (· = '\n') = [t.blank, []] := by
    rcases t.blank_eq with h | h <;> rw [h] <;> decide
  have hnothing : Head.dropReturn t.blank = [] := Head.dropReturn_eq_nil_iff.mpr t.blank_eq
  have hkeeps : ∀ line ∈ (t.first :: t.others).map Head.dropReturn, (!line.isEmpty) = true := by
    intro line hline
    obtain ⟨chars, hchars, rfl⟩ := List.mem_map.mp hline
    simpa using t.ne_empty chars hchars
  rw [Head.lines, text, String.toList_ofList, splitOnP_feedChars t.lineFeed_notMem, hblank,
    List.map_append, List.filter_append, List.filter_eq_self.mpr hkeeps]
  simp [hnothing, startLine, fieldLines]

/-- Whatever was found as a head, and behind no line end, is one, if it is a text. -/
theorem exists_of_headLength {bytes : Bytes} {n : Nat} {text : String}
    (hfront : ∀ b ∈ bytes.head?, isLineEnd b = false) (h : headLength bytes = some n)
    (htext : Utf8.decode (bytes.take n) = .ok text) : ∃ t : HeadText, t.text = text := by
  obtain ⟨lines, blank, rest, rfl, hn, hlines, hblank⟩ := exists_lines_of_headLengthFrom h
  have htake : (feedLines lines ++ (blank ++ 10 :: rest)).take n =
      feedLines lines ++ (blank ++ [10]) := by
    have hassoc : feedLines lines ++ (blank ++ 10 :: rest) =
        (feedLines lines ++ (blank ++ [10])) ++ rest := by simp
    rw [hassoc, hn, Nat.zero_add, List.take_left]
  have hchars : text.toList.flatMap String.utf8EncodeChar = feedLines lines ++ (blank ++ [10]) :=
    (Utf8.encode_of_decode htext).trans htake
  obtain ⟨parts, last, hparts, rfl, rfl⟩ := exists_lines_of_feedLines hchars
  have hspeaks : ∀ part ∈ parts, '\n' ∉ part ∧ Head.dropReturn part ≠ [] := fun part hpart =>
    isHeadLine_flatMap.mp (hlines _ (List.mem_map_of_mem hpart))
  have hlast := Head.dropReturn_eq_nil_iff.mp (Head.nothing_of_blank hblank).2
  cases parts with
  | nil =>
      -- then the stream begins with the empty line
      rcases hblank with hnil | hreturn
      · exact absurd (hfront 10 (by simp [hnil])) (by decide)
      · exact absurd (hfront 13 (by simp [hreturn])) (by decide)
  | cons first others =>
      refine ⟨⟨first, others, last, fun part hpart => (hspeaks part hpart).1,
        fun part hpart => (hspeaks part hpart).2, hlast⟩, ?_⟩
      exact String.toList_inj.mp (by rw [HeadText.text, String.toList_ofList]; exact hparts.symm)

end HeadText

end MediaControl.Wire
