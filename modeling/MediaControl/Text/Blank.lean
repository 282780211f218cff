/-!
# Text: blank characters, trimming and words

A character is *blank* when it has the Unicode property `White_Space`.  Header names, header
values and channel ids are compared and kept with the blanks at both ends removed, and a start line
is the list of its maximal runs of non-blank characters.

`isBlank_of_isWhitespace` says that the property extends the core library's white space.
-/

set_option autoImplicit false

namespace MediaControl.Text

/-- The code points of the property `White_Space`. -/
def blankPoints : List Nat :=
  [0x9, 0xA, 0xB, 0xC, 0xD, 0x20, 0x85, 0xA0, 0x1680,
   0x2000, 0x2001, 0x2002, 0x2003, 0x2004, 0x2005, 0x2006, 0x2007, 0x2008, 0x2009, 0x200A,
   0x2028, 0x2029, 0x202F, 0x205F, 0x3000]

/-- The character has the property `White_Space`. -/
def isBlank (c : Char) : Bool := blankPoints.contains c.toNat

/-- Every character that the core library calls white space is blank. -/
theorem isBlank_of_isWhitespace {c : Char} (h : c.isWhitespace = true) : isBlank c = true := by
  simp only [Char.isWhitespace, Bool.or_eq_true, decide_eq_true_eq] at h
  rcases h with ((h | h) | h) | h <;> subst h <;> decide

/-- The characters with the blanks at both ends removed. -/
def trimChars (s : List Char) : List Char :=
  ((s.dropWhile isBlank).reverse.dropWhile isBlank).reverse

/-- The text with the blanks at both ends removed. -/
def trim (s : String) : String := String.ofList (trimChars s.toList)

@[simp] theorem toList_trim (s : String) : (trim s).toList = trimChars s.toList := by
  simp [trim]

/-- The maximal runs of non-blank characters, first to last. -/
def words (s : String) : List String :=
  ((s.toList.splitOnP isBlank).filter (fun run => !run.isEmpty)).map String.ofList

end MediaControl.Text
