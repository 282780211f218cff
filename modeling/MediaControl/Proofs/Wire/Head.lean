import MediaControl.Proofs.Text.Encoding
import MediaControl.Proofs.Wire.HeadLength
import MediaControl.Proofs.Wire.StartLine
import MediaControl.Wire.Encode

/-!
# Heads that were written

A head is written as lines with their ends and an empty line.  Its lines are found again, in the
text and in the bytes, and the name and the text of a header are read back from its line.

Main statements: `lines_text`, `headLength_append` and `readLine_of_lineSafe`.
-/

set_option autoImplicit false

namespace MediaControl

open MediaControl.Text

/-! ## Headers that a line can carry -/

/-- The header as its line says it, whatever it was made from. -/
def Header.plain (h : Header) : Header := .ofText h.name h.raw

/-- The name and the text of a header come out of its line as they went in: nothing is trimmed away,
nothing ends the line, and the first colon is the one behind the name. -/
structure Header.LineSafe (h : Header) : Prop where
  name_ne_empty : h.name ≠ ""
  trim_name : trim h.name = h.name
  colon_notMem_name : ':' ∉ h.name.toList
  lineFeed_notMem_name : '\n' ∉ h.name.toList
  trim_raw : trim h.raw = h.raw
  lineFeed_notMem_raw : '\n' ∉ h.raw.toList

/-- The header comes out of its line as it went in: nothing is trimmed away, nothing ends the line,
the first colon is the one behind the name, and the name is not that of a length. -/
structure Header.WireSafe (h : Header) : Prop where
  name_ne_empty : h.name ≠ ""
  trim_name : trim h.name = h.name
  colon_notMem_name : ':' ∉ h.name.toList
  lineFeed_notMem_name : '\n' ∉ h.name.toList
  not_contentLength : h.hasName Catalogue.contentLength = false
  trim_raw : trim h.raw = h.raw
  lineFeed_notMem_raw : '\n' ∉ h.raw.toList

theorem Header.WireSafe.lineSafe {h : Header} (safe : h.WireSafe) : h.LineSafe where
  name_ne_empty := safe.name_ne_empty
  trim_name := safe.trim_name
  colon_notMem_name := safe.colon_notMem_name
  lineFeed_notMem_name := safe.lineFeed_notMem_name
  trim_raw := safe.trim_raw
  lineFeed_notMem_raw := safe.lineFeed_notMem_raw

namespace Wire

/-! ## Lines -/

/-- A line that ends nowhere but at its end. -/
structure IsLine (line : String) : Prop where
  ne_empty : line ≠ ""
  lineFeed_notMem : '\n' ∉ line.toList

namespace Head

/-- The characters of a line with its end. -/
def lineChars (line : String) : List Char := line.toList ++ ['\r', '\n']

/-- The text of a head with the given lines, its empty line included. -/
def text (lines : List String) : String :=
  String.ofList (lines.flatMap lineChars ++ ['\r', '\n'])

theorem encode_text (lines : List String) :
    Utf8.encode (text lines) = lines.flatMap lineBytes ++ lineEnd := by
  have hend : ['\r', '\n'].flatMap String.utf8EncodeChar = lineEnd := by decide
  simp only [Utf8.encode, text, String.toList_ofList, List.flatMap_append, List.flatMap_assoc,
    lineChars, hend]
  rfl

@[simp] theorem dropReturn_append (line : List Char) : dropReturn (line ++ ['\r']) = line := by
  simp [dropReturn]

/-- The lines of a head are the lines that were written. -/
theorem lines_text {lines : List String} (h : ∀ line ∈ lines, IsLine line) :
    Head.lines (text lines) = lines := by
  have hsplit : ∀ (line rest : List Char), '\n' ∉ line →
      (line ++ '\r' :: '\n' :: rest).splitOnP (· = '\n') =
        (line ++ ['\r']) :: rest.splitOnP (· = '\n') := by
    intro line rest hline
    have hbefore : '\n' ∉ line ++ ['\r'] := by
      simpa using hline
    rw [← List.singleton_append, ← List.append_assoc]
    exact Text.splitOnP_append_of_notMem hbefore rest
  rw [Head.lines, text, String.toList_ofList]
  induction lines with
  | nil => rfl
  | cons line rest ih =>
      have hline := h line (List.mem_cons_self ..)
      have hne : line.toList ≠ [] := fun hnil => hline.ne_empty (by simpa using hnil)
      have hrest := ih fun other hother => h other (List.mem_cons_of_mem _ hother)
      rw [List.flatMap_cons, lineChars, List.append_assoc, List.append_assoc]
      rw [List.cons_append, List.cons_append, List.nil_append, hsplit _ _ hline.lineFeed_notMem,
        List.map_cons, dropReturn_append, List.filter_cons_of_pos (by simpa using hne),
        List.map_cons, String.ofList_toList, hrest]

end Head

/-! ## The length of a head -/

theorem encode_of_isLine {line : String} (h : IsLine line) :
    Utf8.encode line ≠ [] ∧ (10 : UInt8) ∉ Utf8.encode line := by
  refine ⟨fun hnil => ?_, Utf8.lineFeed_notMem_encode h.lineFeed_notMem⟩
  exact h.ne_empty (Utf8.encode_injective (hnil.trans (show [] = Utf8.encode "" from rfl)))

/-- The length of a head is found, whatever follows it. -/
theorem headLength_append {lines : List String} (h : ∀ line ∈ lines, IsLine line) (rest : Bytes) :
    headLength (Utf8.encode (Head.text lines) ++ rest) =
      some (Utf8.encode (Head.text lines)).length := by
  have hfrom : ∀ seen, headLengthFrom seen .start (lines.flatMap lineBytes ++ (lineEnd ++ rest)) =
      some (seen + (lines.flatMap lineBytes ++ lineEnd).length) := by
    induction lines with
    | nil => intro seen; rfl
    | cons line lines ih =>
        intro seen
        obtain ⟨hne, hfeed⟩ := encode_of_isLine (h line (List.mem_cons_self ..))
        have hrest := ih fun other hother => h other (List.mem_cons_of_mem _ hother)
        rw [List.flatMap_cons, lineBytes, lineEnd, List.append_assoc, List.append_assoc,
          List.cons_append, List.cons_append, List.nil_append,
          headLengthFrom_line hfeed (Or.inr hne)]
        exact (hrest _).trans (by simp [lineEnd]; omega)
  rw [headLength, Head.encode_text, List.append_assoc, hfrom, Nat.zero_add]

/-! ## Reading the lines -/

namespace Head

/-- What the reader makes of the line of a header: a length, if the name says so, and otherwise the
header. -/
def ofHeader (h : Header) : Except Fault Line :=
  if h.hasName Catalogue.contentLength then
    match Natural.read Natural.max64 h.raw with
    | .ok n => .ok (.length n)
    | .error fault => .error (.contentLength h.raw fault)
  else .ok (.header h.plain)

/-- The name and the text of a header are read back from its line. -/
theorem readLine_of_lineSafe {h : Header} (safe : h.LineSafe) : readLine h.line = ofHeader h := by
  have hname : ∀ c ∈ h.name.toList, decide (c ≠ ':') = true := fun c hc =>
    decide_eq_true fun heq => safe.colon_notMem_name (heq ▸ hc)
  have hlist : h.line.toList = h.name.toList ++ ':' :: h.raw.toList := by simp [Header.line]
  have hbefore : h.line.toList.takeWhile (· ≠ ':') = h.name.toList := by
    rw [hlist, List.takeWhile_append_of_pos hname]
    simp
  have hbehind : h.line.toList.dropWhile (· ≠ ':') = ':' :: h.raw.toList := by
    rw [hlist, List.dropWhile_append_of_pos hname]
    simp
  simp only [readLine, hbefore, hbehind, String.ofList_toList, safe.trim_name, safe.trim_raw,
    if_neg safe.name_ne_empty]
  rfl

theorem lineSafe_contentLength (n : Nat) :
    (Header.ofText Catalogue.contentLength (Natural.text n)).LineSafe where
  name_ne_empty := show Catalogue.contentLength ≠ "" by decide
  trim_name := show trim Catalogue.contentLength = Catalogue.contentLength by decide
  colon_notMem_name := show ':' ∉ Catalogue.contentLength.toList by decide
  lineFeed_notMem_name := show '\n' ∉ Catalogue.contentLength.toList by decide
  trim_raw := trim_eq_self (isWord_text n).isBlank_eq_false
  lineFeed_notMem_raw := (isWord_text n).lineFeed_notMem

end Head

end Wire

end MediaControl
