import MediaControl.Proofs.Text.Decoding
import MediaControl.Proofs.Text.Size
import MediaControl.Proofs.Wire.HeadLength
import MediaControl.Wire.Head

/-!
# The lines of a head that was found

The search for the end of a head stops behind the first line that is empty or a lone carriage return.
So a head that was found ends in such a line, and the lines in it that say something, each with a line
feed behind it, leave room for the line feed of that last one.

Main statements: `endsEmpty_of_headLength` (in bytes), `sum_size_lines_le` (in characters) and
`Head.lineFeed_notMem_of_mem_lines`.
-/

set_option autoImplicit false

namespace MediaControl

open MediaControl.Text

/-! ## Line feeds in the bytes of a text -/

/-- A byte that is a line feed stands for the character, and for no part of another. -/
theorem Utf8.split_lineFeed {s : List Char} {front back : Bytes}
    (h : s.flatMap String.utf8EncodeChar = front ++ 10 :: back) :
    ∃ before behind, s = before ++ '\n' :: behind ∧
      before.flatMap String.utf8EncodeChar = front ∧
      behind.flatMap String.utf8EncodeChar = back := by
  induction s generalizing front with
  | nil => simp at h
  | cons c s ih =>
      by_cases hc : c = '\n'
      · subst hc
        have hfeed : String.utf8EncodeChar '\n' = [10] := by decide
        rw [List.flatMap_cons, hfeed, List.singleton_append] at h
        cases front with
        | nil => exact ⟨[], s, rfl, rfl, (List.cons.inj h).2⟩
        | cons b front =>
            obtain ⟨rfl, hrest⟩ := List.cons.inj h
            obtain ⟨before, behind, rfl, hbefore, hbehind⟩ := ih hrest
            refine ⟨'\n' :: before, behind, rfl, ?_, hbehind⟩
            rw [List.flatMap_cons, hfeed, hbefore]
            rfl
      · -- the line feed stands behind the bytes of the first character, which are none
        have hnone : (10 : UInt8) ∉ String.utf8EncodeChar c := by
          have hsingle := lineFeed_notMem_encode (s := String.ofList [c]) (by simpa using Ne.symm hc)
          simpa [encode] using hsingle
        rw [List.flatMap_cons, List.append_eq_append_iff] at h
        rcases h with ⟨between, rfl, hrest⟩ | ⟨between, hfirst, hrest⟩
        · obtain ⟨before, behind, rfl, hbefore, hbehind⟩ := ih hrest
          refine ⟨c :: before, behind, rfl, ?_, hbehind⟩
          rw [List.flatMap_cons, hbefore]
        · cases between with
          | nil =>
              have hempty : s.flatMap String.utf8EncodeChar = [] ++ 10 :: back := hrest.symm
              obtain ⟨before, behind, rfl, hbefore, hbehind⟩ := ih hempty
              refine ⟨c :: before, behind, rfl, ?_, hbehind⟩
              rw [List.flatMap_cons, hbefore, hfirst, List.append_nil, List.append_nil]
          | cons b between =>
              obtain ⟨rfl, -⟩ := List.cons.inj hrest
              exact absurd (hfirst ▸ List.mem_append_right _ (List.mem_cons_self ..)) hnone

namespace Wire

/-! ## The end of a head -/

/-- The bytes end in a line that is empty or a lone carriage return, behind the end of another. -/
def EndsEmpty (bytes : Bytes) : Prop :=
  ∃ before blank : Bytes, (blank = [] ∨ blank = [13]) ∧ bytes = before ++ 10 :: (blank ++ [10])

theorem EndsEmpty.cons (b : UInt8) {bytes : Bytes} (h : EndsEmpty bytes) :
    EndsEmpty (b :: bytes) := by
  obtain ⟨before, blank, hblank, rfl⟩ := h
  exact ⟨b :: before, blank, hblank, rfl⟩

/-- What the search for the end of a head passed over: it ends in an empty line, or is the rest of one
that the search had come upon before. -/
theorem passed_of_headLengthFrom {seen n : Nat} {state : LineState} {bytes : Bytes}
    (h : headLengthFrom seen state bytes = some n) :
    ∃ head rest, bytes = head ++ rest ∧ n = seen + head.length ∧
      (EndsEmpty head ∨ state ≠ .inside ∧ head = [10] ∨ state = .start ∧ head = [13, 10]) := by
  induction bytes generalizing seen state with
  | nil => simp [headLengthFrom] at h
  | cons b bytes ih =>
      by_cases hb : b = 10
      · subst hb
        rw [headLengthFrom_lineFeed] at h
        split at h
        · obtain ⟨head, rest, rfl, rfl, hhead⟩ := ih h
          refine ⟨10 :: head, rest, rfl, by simp; omega, Or.inl ?_⟩
          rcases hhead with hends | ⟨-, rfl⟩ | ⟨-, rfl⟩
          · exact hends.cons 10
          · exact ⟨[], [], Or.inl rfl, rfl⟩
          · exact ⟨[], [13], Or.inr rfl, rfl⟩
        · rename_i hinside
          obtain rfl := Option.some.inj h
          exact ⟨[10], bytes, rfl, rfl, Or.inr (Or.inl ⟨hinside, rfl⟩)⟩
      · rw [headLengthFrom_cons hb] at h
        obtain ⟨head, rest, rfl, rfl, hhead⟩ := ih h
        refine ⟨b :: head, rest, rfl, by simp; omega, ?_⟩
        rcases hhead with hends | ⟨hinside, rfl⟩ | ⟨hstart, -⟩
        · exact Or.inl (hends.cons b)
        · unfold LineState.after at hinside
          split at hinside
          · rename_i hreturn
            simp only [Bool.and_eq_true, decide_eq_true_eq] at hreturn
            exact Or.inr (Or.inr ⟨hreturn.2, by rw [hreturn.1]⟩)
          · exact absurd rfl hinside
        · unfold LineState.after at hstart
          split at hstart <;> cases hstart

/-- A head that was found behind line ends ends in an empty line. -/
theorem endsEmpty_of_headLength {bytes : Bytes} {n : Nat}
    (hfront : ∀ b ∈ bytes.head?, isLineEnd b = false) (h : headLength bytes = some n) :
    EndsEmpty (bytes.take n) := by
  obtain ⟨head, rest, rfl, hn, hhead⟩ := passed_of_headLengthFrom h
  rw [Nat.zero_add] at hn
  rw [hn, List.take_left]
  rcases hhead with hends | ⟨-, rfl⟩ | ⟨-, rfl⟩
  · exact hends
  · exact absurd (hfront 10 rfl) (by decide)
  · exact absurd (hfront 13 rfl) (by decide)

/-! ## The lines of a head -/

namespace Head

@[simp] theorem dropReturn_nil : dropReturn [] = [] := rfl

theorem dropReturn_sublist (line : List Char) : (dropReturn line).Sublist line := by
  unfold dropReturn
  split
  · exact List.dropLast_sublist line
  · exact List.Sublist.refl line

theorem lineFeed_notMem_of_mem_lines {head line : String} (h : line ∈ Head.lines head) :
    '\n' ∉ line.toList := by
  obtain ⟨chars, hchars, rfl⟩ := List.mem_map.mp h
  obtain ⟨part, hpart, rfl⟩ := List.mem_map.mp (List.mem_filter.mp hchars).1
  intro hfeed
  rw [String.toList_ofList] at hfeed
  have hnone := (of_mem_splitOnP hpart _ ((dropReturn_sublist part).mem hfeed)).2
  exact absurd rfl (of_decide_eq_false hnone)

/-- The lines that the parts between line feeds make. -/
def linesOf (parts : List (List Char)) : List String :=
  ((parts.map dropReturn).filter fun line => !line.isEmpty).map String.ofList

/-- Lines take no more room than the parts of which they were made. -/
theorem sum_size_linesOf_le (parts : List (List Char)) :
    ((linesOf parts).map fun line => size line.toList + 1).sum ≤
      (parts.map fun part => size part + 1).sum := by
  induction parts with
  | nil => exact Nat.le_refl _
  | cons part parts ih =>
      have hpart := size_le_of_sublist (dropReturn_sublist part)
      rw [linesOf, List.map_cons, List.filter_cons]
      split
      · simp only [List.map_cons, List.sum_cons, String.toList_ofList]
        exact Nat.add_le_add (Nat.add_le_add_right hpart 1) ih
      · rw [List.map_cons, List.sum_cons]
        exact Nat.le_trans ih (Nat.le_add_left _ _)

/-- The line that ends a head says nothing. -/
theorem nothing_of_blank {chars : List Char}
    (h : chars.flatMap String.utf8EncodeChar = [] ∨ chars.flatMap String.utf8EncodeChar = [13]) :
    '\n' ∉ chars ∧ dropReturn chars = [] := by
  have hbytes : Utf8.encode (String.ofList chars) = chars.flatMap String.utf8EncodeChar := by
    rw [Utf8.encode, String.toList_ofList]
  rcases h with h | h
  · have hnone : String.ofList chars = "" :=
      Utf8.encode_injective ((hbytes.trans h).trans (show [] = Utf8.encode "" from rfl))
    obtain rfl : chars = [] := by simpa using hnone
    exact ⟨by simp, rfl⟩
  · have hlone : String.ofList chars = "\r" :=
      Utf8.encode_injective ((hbytes.trans h).trans (show [13] = Utf8.encode "\r" by decide))
    obtain rfl : chars = ['\r'] := by simpa using congrArg String.toList hlone
    exact ⟨by decide, rfl⟩

/-- The lines of a head that ends in an empty line, each with a line feed, and the line feed of the
empty line have room in it. -/
theorem sum_size_lines_le {head : String} (h : EndsEmpty (Utf8.encode head)) :
    ((Head.lines head).map fun line => size line.toList + 1).sum + 1 ≤ size head.toList := by
  obtain ⟨before, blank, hblank, hhead⟩ := h
  obtain ⟨chars, back, hsplit, -, hback⟩ := Utf8.split_lineFeed hhead
  obtain ⟨empty, last, rfl, hempty, hlast⟩ := Utf8.split_lineFeed hback
  obtain rfl : last = [] := by
    have hsize : size last = 0 := congrArg List.length hlast
    exact List.length_eq_zero_iff.mp (Nat.le_zero.mp (hsize ▸ length_le_size last))
  obtain ⟨hfeed, hnothing⟩ := nothing_of_blank (hempty ▸ hblank)
  have hparts : head.toList.splitOnP (· = '\n') =
      chars.splitOnP (· = '\n') ++ ([empty] ++ [[]]) := by
    rw [hsplit, List.splitOnP_append_cons _ _ (by decide),
      Text.splitOnP_append_of_notMem hfeed, List.splitOnP_nil]
    rfl
  have hlines : Head.lines head = linesOf (chars.splitOnP (· = '\n')) := by
    rw [Head.lines, hparts, linesOf, List.map_append, List.filter_append]
    simp [hnothing]
  have hsum := Nat.le_trans (sum_size_linesOf_le (chars.splitOnP (· = '\n')))
    (sum_size_splitOnP_le _ chars)
  have hone : Char.utf8Size '\n' = 1 := by decide
  rw [hlines, hsplit, size_append, size_cons, size_append, size_cons, hone, size_nil]
  omega

end Head

end Wire

end MediaControl
