import MediaControl.Number.Decimal
import MediaControl.Number.DecimalText
import MediaControl.Proofs.Number.Written
import MediaControl.Proofs.Text.Words

/-!
# How a double is written

Whatever the style, there is no blank in the text of a double, so that nothing of it is trimmed away.
`PrintsBack` says of a double that it is the one that is read from its canonical text.

Main statement: `DecimalStyle.trim_text`.
-/

set_option autoImplicit false

namespace MediaControl

namespace ShortDecimal

theorem dropZeros_subset (digits : List Char) (exponent : Int) :
    (dropZeros digits exponent).1 ⊆ digits := by
  fun_induction dropZeros digits exponent with
  | case1 rest exponent ih => exact List.subset_cons_of_subset _ ih
  | case2 digits exponent => exact List.Subset.refl _

/-- An exponent is written in digits, behind a minus sign if it is negative. -/
theorem isBlank_eq_false_of_mem_toString (n : Int) :
    ∀ c ∈ (toString n).toList, Text.isBlank c = false := by
  have hdigits : ∀ n : Nat, ∀ c ∈ (toString n).toList, Text.isBlank c = false := by
    intro n c hc
    refine Text.isBlank_eq_false_of_isDigit (Natural.isDigit_of_mem_digits (n := n) ?_)
    simpa [Natural.digits, Nat.repr] using hc
  cases n with
  | ofNat n => exact hdigits n
  | negSucc n =>
      have hsign : (toString (Int.negSucc n)).toList = '-' :: (toString (n + 1)).toList := by
        show ("-" ++ toString (n + 1)).toList = _
        rw [String.toList_append]
        rfl
      rw [hsign, List.forall_mem_cons]
      exact ⟨by decide, hdigits (n + 1)⟩

/-- There is no blank in a decimal, however it is laid out. -/
theorem isBlank_eq_false_of_mem_layout (style : DecimalStyle) (x : ShortDecimal) :
    ∀ c ∈ x.layout style, Text.isBlank c = false := by
  have hdropped : ∀ c ∈ (dropZeros (Nat.toDigits 10 x.digits).reverse x.exponent).1.reverse,
      Text.isBlank c = false := by
    intro c hc
    have hmem := dropZeros_subset _ _ (List.mem_reverse.mp hc)
    exact Text.isBlank_eq_false_of_isDigit
      (Natural.isDigit_of_mem_digits (n := x.digits) (List.mem_reverse.mp hmem))
  unfold layout
  generalize dropZeros (Nat.toDigits 10 x.digits).reverse x.exponent = dropped at hdropped ⊢
  obtain ⟨reversed, exponent⟩ := dropped
  simp only at hdropped ⊢
  generalize reversed.reverse = digits at hdropped ⊢
  have htake (n : Nat) : ∀ c ∈ digits.take n, Text.isBlank c = false := fun c hc =>
    hdropped c (List.mem_of_mem_take hc)
  have hdrop (n : Nat) : ∀ c ∈ digits.drop n, Text.isBlank c = false := fun c hc =>
    hdropped c (List.mem_of_mem_drop hc)
  have hzeros (n : Nat) : ∀ c ∈ List.replicate n '0', Text.isBlank c = false := by
    intro c hc
    rw [List.eq_of_mem_replicate hc]
    decide
  have hsolid {s : List Char} (hs : (s.all fun c => !Text.isBlank c) = true) :
      ∀ c ∈ s, Text.isBlank c = false := Text.all_not_isBlank_iff.mp hs
  have hite {b : Prop} [Decidable b] {s t : List Char} (hs : ∀ c ∈ s, Text.isBlank c = false)
      (ht : ∀ c ∈ t, Text.isBlank c = false) : ∀ c ∈ if b then s else t, Text.isBlank c = false := by
    split
    · exact hs
    · exact ht
  -- below one, whole, in between, and with a power of ten
  refine hite (hite ?_ (hite ?_ ?_)) ?_
  · simp only [List.forall_mem_append]
    exact ⟨⟨hsolid (by decide), hzeros _⟩, hdropped⟩
  · simp only [List.forall_mem_append]
    exact ⟨⟨hdropped, hzeros _⟩, hite (hsolid (by decide)) (by simp)⟩
  · simp only [List.forall_mem_append]
    exact ⟨⟨htake _, hsolid (by decide)⟩, hdrop _⟩
  · simp only [List.forall_mem_append]
    refine ⟨⟨⟨htake 1, hite (by simp) ?_⟩, hsolid (by decide)⟩, isBlank_eq_false_of_mem_toString _⟩
    exact List.forall_mem_cons.mpr ⟨by decide, hdrop 1⟩

end ShortDecimal

namespace DecimalStyle

/-- There is no blank in the text of a double. -/
theorem isBlank_eq_false_of_mem_text (style : DecimalStyle) (x : Float) :
    ∀ c ∈ (style.text x).toList, Text.isBlank c = false := by
  have hsigned (negative : Bool) {body : List Char} (hbody : ∀ c ∈ body, Text.isBlank c = false) :
      ∀ c ∈ (String.ofList (if negative then '-' :: body else body)).toList,
        Text.isBlank c = false := by
    rw [String.toList_ofList]
    split
    · exact List.forall_mem_cons.mpr ⟨by decide, hbody⟩
    · exact hbody
  unfold text
  cases DoubleClass.ofFloat x with
  | notANumber =>
      show ∀ c ∈ "NaN".toList, Text.isBlank c = false
      exact Text.all_not_isBlank_iff.mp (by decide)
  | infinity negative => exact hsigned negative (Text.all_not_isBlank_iff.mp (by decide))
  | zero negative =>
      refine hsigned negative (Text.all_not_isBlank_iff.mp ?_)
      split <;> decide
  | finite negative magnitude =>
      exact hsigned negative (ShortDecimal.isBlank_eq_false_of_mem_layout style magnitude.shortest)

@[simp] theorem trim_text (style : DecimalStyle) (x : Float) :
    Text.trim (style.text x) = style.text x :=
  Text.trim_eq_self (style.isBlank_eq_false_of_mem_text x)

end DecimalStyle

/-- The double is read back from its canonical text. -/
def PrintsBack (x : Float) : Prop :=
  (Numeral.read? (DecimalStyle.canonical.text x)).map Numeral.toFloat = some x

instance (x : Float) : Decidable (PrintsBack x) := inferInstanceAs (Decidable (_ = _))

example : ∀ x ∈ [0.0, -0.0, 5e-324, 0.1, 0.30000000000000004, 1.0], PrintsBack x := by
  decide +kernel

end MediaControl
