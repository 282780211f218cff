import MediaControl.Text.Blank
import Mathlib.Data.List.DropRight

/-!
# Words

What stands before a separator is found again as the first part of the whole.  So words joined by single
spaces are found again as the words of the whole, and nothing of a word is blank, so nothing of it is
trimmed away.  Nor is anything trimmed away twice.
-/

set_option autoImplicit false

namespace MediaControl.Text

/-- Something without blanks in it. -/
structure IsWord (s : String) : Prop where
  ne_empty : s ≠ ""
  isBlank_eq_false : ∀ c ∈ s.toList, isBlank c = false

theorem splitOnP_of_notMem {α : Type} [DecidableEq α] {sep : α} {s : List α} (h : sep ∉ s) :
    s.splitOnP (· = sep) = [s] :=
  List.splitOnP_eq_singleton fun _ hc => decide_eq_false fun heq => h (heq ▸ hc)

theorem splitOnP_append_of_notMem {α : Type} [DecidableEq α] {sep : α} {front : List α}
    (h : sep ∉ front) (rest : List α) :
    (front ++ sep :: rest).splitOnP (· = sep) = front :: rest.splitOnP (· = sep) := by
  have hself : decide (sep = sep) = true := decide_eq_true rfl
  rw [List.splitOnP_append_cons front rest hself, splitOnP_of_notMem h, List.singleton_append]

theorem all_not_isBlank_iff {s : List Char} :
    (s.all fun c => !isBlank c) = true ↔ ∀ c ∈ s, isBlank c = false := by
  simp

theorem IsWord.lineFeed_notMem {w : String} (hw : IsWord w) : '\n' ∉ w.toList := by
  intro hmem
  have hblank : isBlank '\n' = true := by decide
  rw [hw.isBlank_eq_false _ hmem] at hblank
  exact Bool.noConfusion hblank

theorem words_append_space {w : String} (hw : IsWord w) (s : String) :
    words (w ++ (" " ++ s)) = w :: words s := by
  have hblank : isBlank ' ' = true := by decide
  have hlist : (w ++ (" " ++ s)).toList = w.toList ++ ' ' :: s.toList := by simp
  have hne : w.toList.isEmpty = false := by
    simpa using hw.ne_empty
  rw [words, hlist, List.splitOnP_append_cons_of_forall_mem hw.isBlank_eq_false ' ' hblank,
    List.filter_cons_of_pos (by rw [hne]; rfl), List.map_cons, String.ofList_toList, words]

theorem words_eq_singleton {w : String} (hw : IsWord w) : words w = [w] := by
  have hne : w.toList.isEmpty = false := by
    simpa using hw.ne_empty
  rw [words, List.splitOnP_eq_singleton hw.isBlank_eq_false,
    List.filter_cons_of_pos (by rw [hne]; rfl)]
  simp

/-- Where nothing is blank nothing is trimmed away. -/
theorem trim_eq_self {w : String} (hw : ∀ c ∈ w.toList, isBlank c = false) : trim w = w := by
  have hfront : w.toList.dropWhile isBlank = w.toList := by
    cases hlist : w.toList with
    | nil => rfl
    | cons c rest => simp [hw c (by simp [hlist])]
  have hback : w.toList.reverse.dropWhile isBlank = w.toList.reverse := by
    cases hlist : w.toList.reverse with
    | nil => rfl
    | cons c rest => simp [hw c (List.mem_reverse.mp (by simp [hlist]))]
  rw [trim, trimChars, hfront, hback, List.reverse_reverse, String.ofList_toList]

/-- A digit is not blank. -/
theorem isBlank_eq_false_of_isDigit {c : Char} (h : c.isDigit = true) : isBlank c = false := by
  have hnone : ∀ p ∈ blankPoints, p < 48 ∨ 57 < p := by decide
  simp only [Char.isDigit, Bool.and_eq_true, decide_eq_true_eq, UInt32.le_iff_toNat_le] at h
  rw [isBlank, List.contains_eq_mem, decide_eq_false_iff_not]
  intro hmem
  have := hnone _ hmem
  have h1 := h.1
  have h2 := h.2
  simp at h1 h2
  omega

theorem trimChars_eq (s : List Char) :
    trimChars s = (s.dropWhile isBlank).rdropWhile isBlank := rfl

theorem dropWhile_trimChars (s : List Char) : (trimChars s).dropWhile isBlank = trimChars s := by
  refine List.dropWhile_eq_self_iff.mpr ?_
  intro hl
  have hfrontOf : trimChars s <+: s.dropWhile isBlank := List.rdropWhile_prefix ..
  have hfirst := List.dropWhile_get_zero_not isBlank s (Nat.lt_of_lt_of_le hl hfrontOf.length_le)
  rw [hfrontOf.getElem hl]
  exact hfirst

theorem trimChars_trimChars (s : List Char) : trimChars (trimChars s) = trimChars s := by
  rw [trimChars_eq (trimChars s), dropWhile_trimChars, trimChars_eq s, List.rdropWhile_idempotent]

theorem trim_trim (s : String) : trim (trim s) = trim s := by
  rw [trim, toList_trim, trimChars_trimChars, trim]

end MediaControl.Text
