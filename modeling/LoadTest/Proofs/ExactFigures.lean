import LoadTest.Fault
import LoadTest.Statistics
import Mathlib

/-!
# Figures as exact numbers

The statistics are stated over any `Scalar`. Over the rational numbers nothing is rounded, so that
their laws can be told: sums do not depend on the order of summation, and a mean is the quotient of
the sum and the number of the figures.
-/

namespace LoadTest.Proofs

/-- Exact arithmetic. A root is exact where it is a number, and a whole part is cut off to a word.
This is no instance, for sums and products of rational numbers are to stay what they are elsewhere. -/
@[reducible] def exactFigures : Scalar ℚ where
  ofCount n := n
  decLt := inferInstance
  decLe := inferInstance
  whole x := saturatedWord ⌊x⌋₊
  sqrt := Rat.sqrt
  sortsBefore x y := x ≤ y

/-- The mean without rounding. -/
abbrev exactMean : List ℚ → ℚ := @mean ℚ exactFigures

lemma exact_atLeast_zero (x : ℚ) :
    @Scalar.atLeast ℚ exactFigures x (@Scalar.zero ℚ exactFigures) = max x 0 := by
  change (if ((0 : ℕ) : ℚ) < x then x else ((0 : ℕ) : ℚ)) = max x 0
  rw [Nat.cast_zero]
  split
  · next h => exact (max_eq_left h.le).symm
  · next h => exact (max_eq_right (not_lt.1 h)).symm

lemma foldl_add_eq (l : List ℚ) (x : ℚ) : l.foldl (· + ·) x = x + l.sum := by
  induction l generalizing x with
  | nil => simp
  | cons y l ih => rw [List.foldl_cons, ih, List.sum_cons, add_assoc]

lemma exact_sum (l : List ℚ) : @Scalar.sum ℚ exactFigures l = l.sum := by
  cases l with
  | nil => exact Nat.cast_zero
  | cons x l => exact foldl_add_eq l x

lemma exactMean_eq (l : List ℚ) : exactMean l = l.sum / l.length := by
  unfold exactMean mean
  split
  · next h =>
    rw [List.isEmpty_iff.1 h, List.sum_nil, zero_div]
    exact Nat.cast_zero
  · rw [exact_sum]
    rfl

/-- A mean lies between the bounds of its figures. -/
lemma exactMean_between {l : List ℚ} {low high : ℚ} (hne : l ≠ []) (hlow : ∀ x ∈ l, low ≤ x)
    (hhigh : ∀ x ∈ l, x ≤ high) : low ≤ exactMean l ∧ exactMean l ≤ high := by
  have hlength : (0 : ℚ) < l.length := Nat.cast_pos.2 (List.length_pos_of_ne_nil hne)
  rw [exactMean_eq, le_div_iff₀ hlength, div_le_iff₀ hlength, mul_comm low, mul_comm high,
    ← nsmul_eq_mul, ← nsmul_eq_mul]
  exact ⟨List.card_nsmul_le_sum l low hlow, List.sum_le_card_nsmul l high hhigh⟩

end LoadTest.Proofs
