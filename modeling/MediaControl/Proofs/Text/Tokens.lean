import MediaControl.Proofs.Text.Size

/-!
# Tokens and what surrounds them

A reader that trims a text before it looks at it, or compares it without regard to case, does not see
the blanks around it or the case of its letters.  This holds of each of two tokens as well that are found
by the one separator between them.

Main statements: `Pads.trim_eq`, `sameCaseless_trim` and `iff_exists_pair`.
-/

set_option autoImplicit false

namespace MediaControl.Text

/-! ## Case -/

/-- What is true of no code point from `A` to `z` cannot tell the cases of a letter. -/
theorem apply_toLower {p : Char → Bool}
    (hletters : ∀ c : Char, 65 ≤ c.toNat → c.toNat ≤ 122 → p c = false) (c : Char) :
    p c.toLower = p c := by
  unfold Char.toLower
  split
  · rename_i h
    have hlow : 65 ≤ c.toNat := h.1
    have hhigh : c.toNat ≤ 90 := h.2
    have hlower : (c.val + 32).toNat = c.toNat + 32 := by
      have hadded : (32 : UInt32).toNat = 32 := rfl
      have hsame : c.val.toNat = c.toNat := rfl
      rw [UInt32.toNat_add, hsame]
      omega
    rw [hletters c hlow (by omega)]
    refine hletters _ ?_ ?_
    · show 65 ≤ (c.val + 32).toNat
      omega
    · show (c.val + 32).toNat ≤ 122
      omega
  · rfl

theorem isDigit_toLower (c : Char) : c.toLower.isDigit = c.isDigit := by
  refine apply_toLower (fun c hlow _ => ?_) c
  simp only [Char.isDigit, Bool.and_eq_false_iff, decide_eq_false_iff_not, UInt32.le_iff_toNat_le]
  exact Or.inr (Nat.not_le.mpr (Nat.lt_of_lt_of_le (by decide : 57 < 65) hlow))

theorem isBlank_toLower (c : Char) : isBlank c.toLower = isBlank c := by
  have hnone : ∀ p ∈ blankPoints, p < 65 ∨ 122 < p := by decide
  refine apply_toLower (fun c hlow hhigh => ?_) c
  rw [isBlank, List.contains_eq_mem, decide_eq_false_iff_not]
  intro hmem
  have := hnone _ hmem
  omega

theorem lowerChars_trimChars (s : List Char) :
    lowerChars (trimChars s) = trimChars (lowerChars s) := by
  have hblank : isBlank ∘ Char.toLower = isBlank := funext isBlank_toLower
  rw [lowerChars, lowerChars, trimChars, trimChars, List.dropWhile_map, hblank, ← List.map_reverse,
    List.dropWhile_map, hblank, ← List.map_reverse]

theorem sameCaseless_congr {s t : String} (h : sameCaseless s t = true) (u : String) :
    sameCaseless u s = sameCaseless u t := by
  rw [sameCaseless, sameCaseless, sameCaseless_iff.mp h]

theorem sameCaseless_eq_false {s t u : String} (h : sameCaseless s t = true)
    (hother : sameCaseless t u = false) : sameCaseless s u = false := by
  rw [sameCaseless_comm, sameCaseless_congr h u, sameCaseless_comm, hother]

/-- Texts that differ at most in case do so when they are trimmed. -/
theorem sameCaseless_trim {s t : String} (h : sameCaseless s t = true) :
    sameCaseless (trim s) (trim t) = true := by
  rw [sameCaseless_iff] at h ⊢
  rw [toList_trim, toList_trim, lowerChars_trimChars, lowerChars_trimChars, h]

/-- Texts that differ at most in case have the same characters that are no letters. -/
theorem mem_iff_of_sameCaseless {c : Char} (hc : c.toNat < 65) {s t : String}
    (h : sameCaseless s t = true) : c ∈ s.toList ↔ c ∈ t.toList := by
  have hlower : ∀ s : String, c ∈ s.toList ↔ c ∈ lowerChars s.toList := by
    intro s
    have hsame : ∀ d : Char, d.toLower = c ↔ d = c := by
      intro d
      have hletters : ∀ e : Char, 65 ≤ e.toNat → e.toNat ≤ 122 → decide (e = c) = false := by
        intro e hlow _
        refine decide_eq_false fun heq => ?_
        rw [heq] at hlow
        omega
      exact decide_eq_decide.mp (apply_toLower (p := fun d => decide (d = c)) hletters d)
    simp [lowerChars, List.mem_map, hsame]
  rw [hlower s, hlower t, sameCaseless_iff.mp h]

/-! ## Blanks around a text -/

/-- The second text is the first one with blanks around it. -/
def Pads (s padded : String) : Prop :=
  ∃ before after : List Char, (∀ c ∈ before, isBlank c = true) ∧ (∀ c ∈ after, isBlank c = true) ∧
    padded.toList = before ++ s.toList ++ after

theorem trimChars_append {before after : List Char} (hbefore : ∀ c ∈ before, isBlank c = true)
    (hafter : ∀ c ∈ after, isBlank c = true) (s : List Char) :
    trimChars (before ++ s ++ after) = trimChars s := by
  have hback : ∀ c ∈ after.reverse, isBlank c = true := fun c hc =>
    hafter c (List.mem_reverse.mp hc)
  rw [trimChars, trimChars, List.append_assoc, List.dropWhile_append_of_pos hbefore,
    List.dropWhile_append]
  split
  · -- there is nothing but blanks
    rename_i hblank
    rw [List.isEmpty_iff.mp hblank, List.dropWhile_eq_nil_iff.mpr hafter]
  · rw [List.reverse_append, List.dropWhile_append_of_pos hback]

/-- Blanks around a text are trimmed away. -/
theorem Pads.trim_eq {s padded : String} (h : Pads s padded) : trim padded = trim s := by
  obtain ⟨before, after, hbefore, hafter, hpadded⟩ := h
  rw [trim, trim, hpadded, trimChars_append hbefore hafter]

theorem Pads.mem_iff {s padded : String} (h : Pads s padded) {c : Char} (hc : isBlank c = false) :
    c ∈ padded.toList ↔ c ∈ s.toList := by
  obtain ⟨before, after, hbefore, hafter, hpadded⟩ := h
  have hnone {blanks : List Char} (hblanks : ∀ c ∈ blanks, isBlank c = true) : c ∉ blanks := by
    intro hmem
    rw [hblanks c hmem] at hc
    cases hc
  simp [hpadded, hnone hbefore, hnone hafter]

theorem pads_trim (s : String) : Pads (trim s) s := by
  refine ⟨s.toList.takeWhile isBlank, (s.toList.dropWhile isBlank).rtakeWhile isBlank, ?_, ?_, ?_⟩
  · intro c hc
    exact List.mem_takeWhile_imp hc
  · intro c hc
    exact List.mem_rtakeWhile_imp hc
  · rw [toList_trim, trimChars_eq, List.append_assoc, List.rdropWhile_append_rtakeWhile,
      List.takeWhile_append_dropWhile]

theorem mem_trim_iff {c : Char} (hc : isBlank c = false) {s : String} :
    c ∈ (trim s).toList ↔ c ∈ s.toList :=
  ((pads_trim s).mem_iff hc).symm

/-! ## Two tokens -/

/-- There are two parts exactly if the separator stands once, between them. -/
theorem splitOnP_eq_pair_iff {sep : Char} {s left right : List Char} :
    s.splitOnP (· = sep) = [left, right] ↔ s = left ++ sep :: right ∧ sep ∉ left ∧ sep ∉ right := by
  constructor
  · intro hsplit
    have hthere : sep ∈ s := by
      by_contra hmissing
      rw [splitOnP_of_notMem hmissing] at hsplit
      cases hsplit
    obtain ⟨front, back, hs, hfront⟩ := List.eq_append_cons_of_mem hthere
    rw [hs, splitOnP_append_of_notMem hfront] at hsplit
    obtain ⟨rfl, hback⟩ := List.cons.inj hsplit
    -- behind another separator there would be a third part
    have hlast : sep ∉ back := by
      intro hmem
      obtain ⟨more, others, rfl⟩ := List.append_of_mem hmem
      rw [List.splitOnP_append_cons more others (decide_eq_true rfl)] at hback
      have hlength := congrArg List.length hback
      have hmore := List.length_pos_iff.mpr (List.splitOnP_ne_nil (fun c => decide (c = sep)) more)
      have hothers :=
        List.length_pos_iff.mpr (List.splitOnP_ne_nil (fun c => decide (c = sep)) others)
      rw [List.length_append, List.length_singleton] at hlength
      omega
    rw [splitOnP_of_notMem hlast] at hback
    obtain ⟨rfl, -⟩ := List.cons.inj hback
    exact ⟨hs, hfront, hlast⟩
  · rintro ⟨rfl, hleft, hright⟩
    rw [splitOnP_append_of_notMem hleft, splitOnP_of_notMem hright]

/-- What is true of a text of two parts only is true exactly if the separator stands once in the text and
it is true of what stands before and behind it. -/
theorem iff_exists_pair {sep : Char} {s : List Char} {accepts : Prop}
    {acceptsPair : List Char → List Char → Prop}
    (hpair : ∀ left right, s.splitOnP (· = sep) = [left, right] →
      (accepts ↔ acceptsPair left right))
    (hother : (∀ left right, s.splitOnP (· = sep) ≠ [left, right]) → ¬ accepts) :
    accepts ↔ ∃ left right, s = left ++ sep :: right ∧ sep ∉ left ∧ sep ∉ right ∧
      acceptsPair left right := by
  constructor
  · intro h
    by_cases hsplit : ∃ left right, s.splitOnP (· = sep) = [left, right]
    · obtain ⟨left, right, hsplit⟩ := hsplit
      obtain ⟨hs, hleft, hright⟩ := splitOnP_eq_pair_iff.mp hsplit
      exact ⟨left, right, hs, hleft, hright, (hpair left right hsplit).mp h⟩
    · exact absurd h (hother fun left right hpair => hsplit ⟨left, right, hpair⟩)
  · rintro ⟨left, right, hs, hleft, hright, h⟩
    exact (hpair left right (splitOnP_eq_pair_iff.mpr ⟨hs, hleft, hright⟩)).mpr h

end MediaControl.Text
