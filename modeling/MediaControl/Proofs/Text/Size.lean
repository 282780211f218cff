import MediaControl.Proofs.Text.Encoding
import MediaControl.Proofs.Text.Words
import MediaControl.Proofs.Vocabulary
import Mathlib.Algebra.GroupWithZero.Nat
import Mathlib.Algebra.Order.BigOperators.Group.List
import Mathlib.Algebra.Order.Group.Nat

/-!
# Sizes of texts

How many bytes a text has, and that no reader makes more of a text than there was: the parts between
separators, what is left of a part without its blanks, and a term for a word are no larger than what
they were read from.

Main statements: `sum_size_splitOnP_le` (parts), `sum_size_words_le` (words) and `size_wire_le` (terms
of a vocabulary).
-/

set_option autoImplicit false

namespace MediaControl.Text

/-- How many bytes the characters have. -/
def size (s : List Char) : Nat := (s.flatMap String.utf8EncodeChar).length

theorem length_encode (s : String) : (Utf8.encode s).length = size s.toList := rfl

@[simp] theorem size_nil : size [] = 0 := rfl

@[simp] theorem size_cons (c : Char) (s : List Char) : size (c :: s) = c.utf8Size + size s := by
  simp [size]

@[simp] theorem size_append (s t : List Char) : size (s ++ t) = size s + size t := by
  simp [size]

theorem size_toList_append (s t : String) :
    size (s ++ t).toList = size s.toList + size t.toList := by
  rw [String.toList_append, size_append]

theorem size_le_of_sublist {s t : List Char} (h : s.Sublist t) : size s ≤ size t := by
  induction h with
  | slnil => exact Nat.le_refl _
  | cons c _ ih => exact Nat.le_trans ih (by simp)
  | cons_cons c _ ih => simpa using ih

theorem length_le_size (s : List Char) : s.length ≤ size s := by
  induction s with
  | nil => exact Nat.le_refl _
  | cons c s ih =>
      have hpos := c.utf8Size_pos
      rw [List.length_cons, size_cons]
      omega

theorem size_eq_length {s : List Char} (h : s.all fun c => c.toNat ≤ 127) : size s = s.length := by
  induction s with
  | nil => rfl
  | cons c s ih =>
      rw [List.all_cons, Bool.and_eq_true, decide_eq_true_eq] at h
      have hone : c.utf8Size = 1 := Char.utf8Size_eq_one_iff.mpr h.1
      rw [size_cons, ih h.2, hone, List.length_cons, Nat.add_comm]

/-! ## Parts of a text -/

/-- A part is made of characters of the text, none of which separates parts. -/
theorem of_mem_splitOnP {p : Char → Bool} {s part : List Char} (h : part ∈ s.splitOnP p) :
    ∀ c ∈ part, c ∈ s ∧ p c = false := by
  induction s generalizing part with
  | nil =>
      rw [List.splitOnP_nil, List.mem_singleton] at h
      simp [h]
  | cons c s ih =>
      have htail : ∀ part ∈ s.splitOnP p, ∀ d ∈ part, d ∈ c :: s ∧ p d = false :=
        fun part hpart d hd => (ih hpart d hd).imp_left (List.mem_cons_of_mem c)
      rw [List.splitOnP_cons_eq_if_modifyHead] at h
      split at h
      · rcases List.mem_cons.mp h with rfl | h
        · simp
        · exact htail part h
      · rename_i hc
        obtain ⟨first, others, hparts⟩ := List.exists_cons_of_ne_nil (List.splitOnP_ne_nil p s)
        rw [hparts, List.modifyHead_cons, List.mem_cons] at h
        rw [hparts] at htail
        rcases h with rfl | h
        · intro d hd
          rcases List.mem_cons.mp hd with rfl | hd
          · exact ⟨List.mem_cons_self .., by simpa using hc⟩
          · exact htail first (List.mem_cons_self ..) d hd
        · exact htail part (List.mem_cons_of_mem _ h)

/-- The parts of a text, each with a byte for what separates it from the next. -/
theorem sum_size_splitOnP_le (p : Char → Bool) (s : List Char) :
    ((s.splitOnP p).map fun part => size part + 1).sum ≤ size s + 1 := by
  induction s with
  | nil => exact Nat.le_refl _
  | cons c s ih =>
      have hpos := c.utf8Size_pos
      rw [List.splitOnP_cons_eq_if_modifyHead]
      obtain ⟨first, others, hparts⟩ := List.exists_cons_of_ne_nil (List.splitOnP_ne_nil p s)
      rw [hparts] at ih ⊢
      split
      · simp only [List.map_cons, List.sum_cons, size_nil, size_cons] at ih ⊢
        omega
      · simp only [List.modifyHead_cons, List.map_cons, List.sum_cons, size_cons] at ih ⊢
        omega

/-- The words of a text, each with a byte for what separates it from the next. -/
theorem sum_size_words_le (s : String) :
    ((words s).map fun word => size word.toList + 1).sum ≤ size s.toList + 1 := by
  have hparts := sum_size_splitOnP_le isBlank s.toList
  have hkept :
      (((s.toList.splitOnP isBlank).filter fun run => !run.isEmpty).map fun part =>
        size part + 1).sum ≤ ((s.toList.splitOnP isBlank).map fun part => size part + 1).sum :=
    ((List.filter_sublist ..).map _).sum_le_sum fun _ _ => Nat.zero_le _
  have hwords : ((words s).map fun word => size word.toList + 1) =
      ((s.toList.splitOnP isBlank).filter fun run => !run.isEmpty).map fun part => size part + 1 := by
    simp [words]
  rw [hwords]
  exact Nat.le_trans hkept hparts

theorem mem_of_mem_words {s word : String} {c : Char} (hword : word ∈ words s)
    (hc : c ∈ word.toList) : c ∈ s.toList := by
  obtain ⟨part, hpart, rfl⟩ := List.mem_map.mp hword
  rw [String.toList_ofList] at hc
  exact (of_mem_splitOnP (List.mem_of_mem_filter hpart) c hc).1

theorem ne_empty_of_mem_words {s word : String} (h : word ∈ words s) : word ≠ "" := by
  obtain ⟨part, hpart, rfl⟩ := List.mem_map.mp h
  have hne := (List.mem_filter.mp hpart).2
  intro hempty
  have hnil : part = [] := by simpa using congrArg String.toList hempty
  simp [hnil] at hne

theorem trimChars_sublist (s : List Char) : (trimChars s).Sublist s :=
  (List.rdropWhile_prefix ..).sublist.trans (List.dropWhile_sublist _)

theorem size_trim_le (s : String) : size (trim s).toList ≤ size s.toList := by
  rw [toList_trim]
  exact size_le_of_sublist (trimChars_sublist _)

/-! ## Words for terms -/

theorem length_eq_of_sameCaseless {s t : String} (h : sameCaseless s t = true) :
    s.toList.length = t.toList.length := by
  have hlower := congrArg List.length (sameCaseless_iff.mp h)
  simpa [lowerChars] using hlower

theorem size_le_of_sameCaseless {s t : String} (hs : s.toList.all fun c => c.toNat ≤ 127)
    (h : sameCaseless s t = true) : size s.toList ≤ size t.toList := by
  rw [size_eq_length hs, length_eq_of_sameCaseless h]
  exact length_le_size t.toList

/-- The word that was read as a term has the form of the term, in some case. -/
theorem sameCaseless_of_ofWire {α : Type} [Vocabulary α] {word : String} {term : α}
    (h : Vocabulary.ofWire word = .ok term) : sameCaseless (Vocabulary.wire term) word = true := by
  unfold Vocabulary.ofWire at h
  split at h
  · rename_i found hfound
    obtain rfl := Except.ok.inj h
    have hsame := List.find?_some hfound
    simp only [Bool.and_eq_true] at hsame
    exact hsame.2
  · cases h

/-- A term in ASCII is no larger than the word that was read as it. -/
theorem size_wire_le {α : Type} [Vocabulary α] {word : String} {term : α}
    (hascii : (Vocabulary.wire term).toList.all fun c => c.toNat ≤ 127)
    (h : Vocabulary.ofWire word = .ok term) :
    size (Vocabulary.wire term).toList ≤ size word.toList :=
  size_le_of_sameCaseless hascii (sameCaseless_of_ofWire h)

end MediaControl.Text
