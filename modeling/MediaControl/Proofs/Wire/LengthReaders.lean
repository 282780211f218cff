import MediaControl.Proofs.Header.Canonical
import MediaControl.Proofs.Wire.Grammar

/-!
# The two readers of lengths (SPEC_FULL §4.1, §4.2)

The length of a body is read twice: by the reader of heads, which has to know where the message ends,
and by the catalogue, when somebody asks for the value of the header.  Both trim the text and take a row
of digits that makes a number of 64 bits, and the reader of heads takes a plus sign before it as well.
So they agree on every text but those.

Main statements: `readLine_eq_length_iff`, `read_contentLength_iff` and `lengths_agree_iff`.
-/

set_option autoImplicit false

namespace MediaControl.Wire

open MediaControl.Text

/-- A row of digits that makes a number of 64 bits. -/
structure IsRow (digits : List Char) (n : Nat) : Prop where
  ne_nil : digits ≠ []
  isDigit : ∀ c ∈ digits, c.isDigit = true
  value : Natural.valueFrom 0 digits = n
  le_max : n ≤ Natural.max64

theorem IsRow.ne_plus {digits : List Char} {n : Nat} (h : IsRow digits n) (rest : List Char) :
    digits ≠ '+' :: rest := by
  rintro rfl
  have hplus : '+'.isDigit = true := h.isDigit '+' (List.mem_cons_self ..)
  exact absurd hplus (by decide)

theorem natural_read_iff {text : String} {n : Nat} :
    Natural.read Natural.max64 text = .ok n ↔
      IsRow text.toList n ∨ ∃ digits, text.toList = '+' :: digits ∧ IsRow digits n := by
  rw [Natural.read_eq_ok_iff]
  constructor
  · rintro ⟨⟨digits, hbare | hsigned, hne, hdigits, hvalue⟩, hle⟩
    · rw [hbare]
      exact .inl ⟨hne, hdigits, hvalue, hle⟩
    · exact .inr ⟨digits, hsigned, hne, hdigits, hvalue, hle⟩
  · rintro (hrow | ⟨digits, hsigned, hrow⟩)
    · exact ⟨⟨text.toList, .inl rfl, hrow.ne_nil, hrow.isDigit, hrow.value⟩, hrow.le_max⟩
    · exact ⟨⟨digits, .inr hsigned, hrow.ne_nil, hrow.isDigit, hrow.value⟩, hrow.le_max⟩

/-! ## What either reader takes -/

/-- The name is that of a length, in any case and with blanks around it. -/
def IsLengthName (name : String) : Prop := sameCaseless (trim name) Catalogue.contentLength = true

/-- A line with the name of a length is that of a header of this name. -/
theorem isField_of_isLengthName {name : String} (hname : IsLengthName name) (value : String) :
    Head.IsField (name ++ ":" ++ value) (.ofText (trim name) (trim value)) := by
  have hcolon : ':' ∉ name.toList := by
    rw [← mem_trim_iff (by decide), mem_iff_of_sameCaseless (by decide) hname]
    decide
  have hne : trim name ≠ "" := by
    intro hempty
    rw [IsLengthName, hempty] at hname
    exact absurd hname (by decide)
  refine ⟨name.toList, value.toList, ?_, hcolon, ?_, ?_⟩
  · simp
  · rw [String.ofList_toList]
    exact hne
  · rw [String.ofList_toList, String.ofList_toList]

/-- The reader of heads takes digits, perhaps with a plus sign before them. -/
theorem readLine_eq_length_iff {name : String} (hname : IsLengthName name) {value : String} {n : Nat} :
    Head.readLine (name ++ ":" ++ value) = .ok (.length n) ↔
      IsRow (trim value).toList n ∨
        ∃ digits, (trim value).toList = '+' :: digits ∧ IsRow digits n := by
  have hlength : (Header.ofText (trim name) (trim value)).hasName Catalogue.contentLength = true := hname
  rw [Head.readLine_of_isField (isField_of_isLengthName hname value), Head.ofHeader, if_pos hlength,
    ← natural_read_iff]
  have hraw : (Header.ofText (trim name) (trim value)).raw = trim value := rfl
  rw [hraw]
  cases Natural.read Natural.max64 (trim value) with
  | error fault => exact iff_of_false (fun h => by cases h) (fun h => by cases h)
  | ok m => rw [Except.ok.injEq, Except.ok.injEq, Head.Line.length.injEq]

/-- The catalogue takes digits. -/
theorem read_contentLength_iff {value : String} {v : HeaderValue} :
    Catalogue.read Catalogue.contentLength value = .ok v ↔
      ∃ n, v = .integer n ∧ IsRow (trim value).toList n := by
  have hkind : Catalogue.kindOf Catalogue.contentLength = .integer := by decide
  rw [Catalogue.read, hkind, ValueKind.read, ValueKind.readInteger_eq_ok_iff]
  constructor
  · rintro ⟨n, hv, hne, hdigits, hvalue, hle⟩
    exact ⟨n, hv, hne, hdigits, hvalue, hle⟩
  · rintro ⟨n, hv, hrow⟩
    exact ⟨n, hv, hrow.ne_nil, hrow.isDigit, hrow.value, hrow.le_max⟩

/-! ## Where they differ -/

/-- The text is a number of 64 bits with a plus sign before it, blanks around the two apart. -/
def IsSigned (value : String) : Prop :=
  ∃ n digits, (trim value).toList = '+' :: digits ∧ IsRow digits n

/-- Whatever length the catalogue reads, the reader of heads reads as well; and the two take the same
texts, as the same numbers, exactly if the text is not a number with a plus sign before it. -/
theorem lengths_agree_iff {name : String} (hname : IsLengthName name) (value : String) :
    (∀ v, Catalogue.read Catalogue.contentLength value = .ok v →
      ∃ n, v = .integer n ∧ Head.readLine (name ++ ":" ++ value) = .ok (.length n)) ∧
    ((∀ n, Head.readLine (name ++ ":" ++ value) = .ok (.length n) ↔
      Catalogue.read Catalogue.contentLength value = .ok (.integer n)) ↔ ¬ IsSigned value) := by
  have hcatalogue : ∀ n, Catalogue.read Catalogue.contentLength value = .ok (.integer n) ↔
      IsRow (trim value).toList n := by
    intro n
    rw [read_contentLength_iff]
    constructor
    · rintro ⟨m, hm, hrow⟩
      rw [HeaderValue.integer.inj hm]
      exact hrow
    · intro hrow
      exact ⟨n, rfl, hrow⟩
  refine ⟨?_, ?_, ?_⟩
  · intro v hv
    obtain ⟨n, rfl, hrow⟩ := read_contentLength_iff.mp hv
    exact ⟨n, rfl, (readLine_eq_length_iff hname).mpr (.inl hrow)⟩
  · rintro hagree ⟨n, digits, hsigned, hrow⟩
    have hread := (readLine_eq_length_iff hname).mpr (.inr ⟨digits, hsigned, hrow⟩)
    have hbare := (hcatalogue n).mp ((hagree n).mp hread)
    exact hbare.ne_plus digits hsigned
  · intro hunsigned n
    rw [readLine_eq_length_iff hname, hcatalogue]
    apply or_iff_left
    rintro ⟨digits, hsigned, hrow⟩
    exact hunsigned ⟨n, digits, hsigned, hrow⟩

/-- The two agree on a length with blanks around it. -/
theorem lengths_agree_iff_padded : IsLengthName " content-LENGTH" ∧ ¬ IsSigned "\t007 " ∧
    ∀ n, Head.readLine (" content-LENGTH" ++ ":" ++ "\t007 ") = .ok (.length n) ↔
      Catalogue.read Catalogue.contentLength "\t007 " = .ok (.integer n) := by
  have hname : IsLengthName " content-LENGTH" := by
    rw [IsLengthName]
    decide
  have hunsigned : ¬ IsSigned "\t007 " := by
    have hchars : (trim "\t007 ").toList = ['0', '0', '7'] := by decide
    rintro ⟨n, digits, hsigned, -⟩
    rw [hchars] at hsigned
    cases hsigned
  exact ⟨hname, hunsigned, (lengths_agree_iff hname "\t007 ").2.mpr hunsigned⟩

/-- A length with a plus sign before it delimits a body, and is no value of the header. -/
theorem signed_length_splits :
    Head.readLine (Catalogue.contentLength ++ ":" ++ "+1") = .ok (.length 1) ∧
    ∀ v, Catalogue.read Catalogue.contentLength "+1" ≠ .ok v := by
  have hname : IsLengthName Catalogue.contentLength := by
    rw [IsLengthName]
    decide
  have hchars : (trim "+1").toList = ['+', '1'] := by decide
  have hrow : IsRow ['1'] 1 :=
    ⟨List.cons_ne_nil _ _, List.forall_mem_singleton.mpr (by decide), by decide, by decide⟩
  constructor
  · exact (readLine_eq_length_iff hname).mpr (.inr ⟨['1'], hchars, hrow⟩)
  · intro v hv
    obtain ⟨n, -, hbare⟩ := read_contentLength_iff.mp hv
    exact hbare.ne_plus ['1'] hchars

end MediaControl.Wire
