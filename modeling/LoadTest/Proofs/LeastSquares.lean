import LoadTest.Analysis.Trend
import LoadTest.Proofs.ExactFigures

/-!
# The least-squares line

A trend is fitted to the points `(i, values[i])` of a series. Without rounding, the error of any line
splits into three parts: the error of the fitted line, one for the slope and one for the height in
the middle. The other laws follow from this: no line fits better, and what the fitted line explains of
the spread is a share between none and all of it.
-/

namespace LoadTest.Proofs

open Finset

/-- A fitted line without rounding. -/
abbrev exactFit : List ℚ → LineFit ℚ := @LineFit.ofValues ℚ exactFigures

/-- How far a line misses the points of a series: the sum of its squared distances from them. -/
def squaredError (values : List ℚ) (slope intercept : ℚ) : ℚ :=
  ∑ i : Fin values.length, (values[i] - (intercept + slope * (i : ℕ))) ^ 2

/-- The squared distances of some values from their mean. -/
def spread (values : List ℚ) : ℚ :=
  ∑ i : Fin values.length, (values[i] - values.sum / values.length) ^ 2

/-- Every point of a series is on a line. -/
def OnLine (values : List ℚ) (slope intercept : ℚ) : Prop :=
  ∀ i : Fin values.length, values[i] = intercept + slope * (i : ℕ)

/-! ### The moments of a series -/

section Moments

/-- The position in the middle of `n` points. -/
def middle (n : ℕ) : ℚ := (n - 1) / 2

/-- The squared distances of `n` positions from their middle. -/
def positionSpread (n : ℕ) : ℚ := ∑ i ∈ range n, (i - middle n) ^ 2

/-- How positions and values vary together. -/
def crossSpread (values : List ℚ) : ℚ :=
  ∑ i ∈ range values.length, (i - middle values.length) * (values.getD i 0 - exactMean values)

variable {values : List ℚ}

lemma sum_points_range (values : List ℚ) (f : ℕ → ℚ → ℚ) :
    ∑ i : Fin values.length, f i values[i] =
      ∑ i ∈ range values.length, f i (values.getD i 0) := by
  rw [sum_range]
  refine sum_congr rfl fun i _ => ?_
  rw [List.getD_eq_getElem _ _ i.isLt]
  rfl

lemma sum_zipIdx_range (values : List ℚ) (f : ℕ → ℚ → ℚ) :
    (values.zipIdx.map fun (y, i) => f i y).sum =
      ∑ i ∈ range values.length, f i (values.getD i 0) := by
  rw [← sum_points_range, ← List.sum_ofFn]
  congr 1
  apply List.ext_getElem
  · simp
  · intro i h _
    simp

lemma sum_map_range (values : List ℚ) (f : ℚ → ℚ) :
    (values.map f).sum = ∑ i ∈ range values.length, f (values.getD i 0) := by
  rw [← sum_zipIdx_range values fun _ y => f y]
  congr 1
  apply List.ext_getElem
  · simp
  · intro i h _
    simp

lemma sum_range_values (values : List ℚ) :
    values.sum = ∑ i ∈ range values.length, values.getD i 0 := by
  simpa using sum_map_range values id

lemma squaredError_eq_sum (values : List ℚ) (slope intercept : ℚ) :
    squaredError values slope intercept =
      ∑ i ∈ range values.length, (values.getD i 0 - (intercept + slope * i)) ^ 2 :=
  sum_points_range values fun i y => (y - (intercept + slope * i)) ^ 2

lemma spread_eq_sum (values : List ℚ) :
    spread values = ∑ i ∈ range values.length, (values.getD i 0 - exactMean values) ^ 2 := by
  rw [exactMean_eq]
  exact sum_points_range values fun _ y => (y - values.sum / values.length) ^ 2

lemma sum_error (values : List ℚ) (slope intercept : ℚ) :
    (values.zipIdx.map fun point => (point.1 - (intercept + slope * point.2)) *
      (point.1 - (intercept + slope * point.2))).sum = squaredError values slope intercept := by
  simp only [← sq]
  rw [squaredError_eq_sum]
  exact sum_zipIdx_range values fun i y => (y - (intercept + slope * i)) ^ 2

lemma sum_spread (values : List ℚ) :
    (values.map fun y => (y - exactMean values) * (y - exactMean values)).sum = spread values := by
  simp only [← sq]
  rw [spread_eq_sum, sum_map_range]

/-- Positions lie evenly about their middle. -/
lemma sum_positions (n : ℕ) : ∑ i ∈ range n, (i - middle n) = 0 := by
  have hsum : ∑ i ∈ range n, (i : ℚ) = n * middle n := by
    unfold middle
    induction n with
    | zero => simp
    | succ n ih =>
      rw [sum_range_succ, ih]
      push_cast
      ring
  rw [sum_sub_distrib, hsum, sum_const, card_range, nsmul_eq_mul, sub_self]

/-- Values lie evenly about their mean. -/
lemma sum_range_sub_mean (values : List ℚ) :
    ∑ i ∈ range values.length, (values.getD i 0 - exactMean values) = 0 := by
  rw [sum_sub_distrib, ← sum_range_values, sum_const, card_range, nsmul_eq_mul, exactMean_eq]
  obtain rfl | hne := eq_or_ne values []
  · simp
  · have hlength : (values.length : ℚ) ≠ 0 := by simpa using hne
    rw [mul_div_cancel₀ _ hlength, sub_self]

lemma positionSpread_pos {n : ℕ} (h : 2 ≤ n) : 0 < positionSpread n := by
  have hfirst : (0 : ℚ) < ((0 : ℕ) - middle n) ^ 2 := by
    have hn : (2 : ℚ) ≤ n := by exact_mod_cast h
    have hmiddle : 0 < middle n := by
      unfold middle
      linarith
    rw [Nat.cast_zero, zero_sub, neg_sq]
    positivity
  exact hfirst.trans_le (single_le_sum (f := fun i : ℕ => ((i : ℚ) - middle n) ^ 2)
    (fun i _ => sq_nonneg _) (mem_range.2 (by omega)))

/-- Of the square of a sum of deviations, the products with a single deviation cancel out. -/
lemma sum_sq_deviations {n : ℕ} {dx dy : ℕ → ℚ} (hx : ∑ i ∈ range n, dx i = 0)
    (hy : ∑ i ∈ range n, dy i = 0) (slope shift : ℚ) :
    ∑ i ∈ range n, (dy i - slope * dx i + shift) ^ 2 =
      ∑ i ∈ range n, dy i ^ 2 - 2 * slope * ∑ i ∈ range n, dx i * dy i +
        slope ^ 2 * ∑ i ∈ range n, dx i ^ 2 + n * shift ^ 2 := by
  have hpoint (i : ℕ) : (dy i - slope * dx i + shift) ^ 2 =
      dy i ^ 2 - 2 * slope * (dx i * dy i) + slope ^ 2 * dx i ^ 2 + shift ^ 2 +
        2 * shift * dy i - 2 * slope * shift * dx i := by
    ring
  simp only [hpoint, sum_add_distrib, sum_sub_distrib, ← mul_sum, sum_const, card_range,
    nsmul_eq_mul, hx, hy]
  ring

lemma squaredError_eq_moments (values : List ℚ) (slope intercept : ℚ) :
    squaredError values slope intercept =
      spread values - 2 * slope * crossSpread values + slope ^ 2 * positionSpread values.length +
        values.length * (exactMean values - (intercept + slope * middle values.length)) ^ 2 := by
  have hpoint (i : ℕ) : values.getD i 0 - (intercept + slope * i) =
      values.getD i 0 - exactMean values - slope * (i - middle values.length) +
        (exactMean values - (intercept + slope * middle values.length)) := by
    ring
  simp only [squaredError_eq_sum, hpoint]
  rw [sum_sq_deviations (sum_positions _) (sum_range_sub_mean values), spread_eq_sum]
  rfl

end Moments

/-! ### The fitted line -/

section Fit

variable {values : List ℚ}

lemma foldl_pair_add {α : Type} (f g : α → ℚ) (l : List α) (x y : ℚ) :
    l.foldl (fun (sums : ℚ × ℚ) a => (sums.1 + f a, sums.2 + g a)) (x, y) =
      (x + (l.map f).sum, y + (l.map g).sum) := by
  induction l generalizing x y with
  | nil => simp
  | cons a l ih => rw [List.foldl_cons, ih, List.map_cons, List.sum_cons, List.map_cons,
      List.sum_cons, add_assoc, add_assoc]

/-- One pass over the points gathers both moments. -/
lemma foldl_moments {step : ℚ × ℚ → ℚ × ℕ → ℚ × ℚ}
    (h : ∀ sums point, step sums point =
      (sums.1 + (point.2 - middle values.length) * (point.1 - exactMean values),
        sums.2 + (point.2 - middle values.length) * (point.2 - middle values.length))) :
    values.zipIdx.foldl step (0, 0) = (crossSpread values, positionSpread values.length) := by
  have hcross := sum_zipIdx_range values fun i y =>
    (i - middle values.length) * (y - exactMean values)
  have hspread := sum_zipIdx_range values fun i _ => (i - middle values.length) ^ 2
  rw [show step = _ from funext₂ h, foldl_pair_add, hcross]
  simp only [← sq, hspread, zero_add]
  rfl

lemma exact_ofCount (n : ℕ) : @Scalar.ofCount ℚ exactFigures n = n := rfl

lemma exact_zero : @Scalar.zero ℚ exactFigures = 0 := Nat.cast_zero

/-- Within its bounds nothing is cut off. -/
lemma exact_clamp {x low high : ℚ} (hlow : low ≤ x) (hhigh : x ≤ high) :
    @Scalar.clamp ℚ exactFigures x low high = x := by
  unfold Scalar.clamp
  rw [if_neg (not_lt.2 hlow), if_neg (not_lt.2 hhigh)]

lemma exact_same (x y : ℚ) : @Scalar.same ℚ exactFigures x y = true ↔ x = y := by
  unfold Scalar.same
  rw [Bool.and_eq_true, decide_eq_true_eq, decide_eq_true_eq]
  exact antisymm_iff

lemma exactFit_eq (h : 2 ≤ values.length) :
    (exactFit values).slope = crossSpread values / positionSpread values.length ∧
    (exactFit values).intercept =
      exactMean values - (exactFit values).slope * middle values.length ∧
    (exactFit values).rSquared = if spread values = 0 then 0 else
      @Scalar.clamp ℚ exactFigures
        (1 - squaredError values (exactFit values).slope (exactFit values).intercept /
          spread values) 0 1 := by
  have hfit : exactFit values = _ := if_neg (by omega)
  have hcentre : ((values.length : ℚ) - (1 : ℕ)) / (2 : ℕ) = middle values.length := by
    rw [Nat.cast_one, Nat.cast_ofNat, middle]
  rw [hfit, exact_zero]
  simp only [exact_ofCount, hcentre, exact_same, exact_sum]
  rw [foldl_moments fun _ _ => rfl]
  refine ⟨rfl, trivial, ?_⟩
  rw [sum_spread, sum_error, Nat.cast_one]

/-- The error of a line: that of the fitted one, and what its slope and its height in the middle of
the points add to it. -/
lemma squaredError_eq_fit (h : 2 ≤ values.length) (slope intercept : ℚ) :
    squaredError values slope intercept =
      squaredError values (exactFit values).slope (exactFit values).intercept +
        positionSpread values.length * (slope - (exactFit values).slope) ^ 2 +
        values.length * (exactMean values - (intercept + slope * middle values.length)) ^ 2 := by
  obtain ⟨hslope, hintercept, -⟩ := exactFit_eq h
  have hpositions := (positionSpread_pos h).ne'
  rw [squaredError_eq_moments, squaredError_eq_moments, hintercept, hslope]
  field_simp
  ring

/-- What the fitted line leaves unexplained. -/
lemma squaredError_fit (h : 2 ≤ values.length) :
    squaredError values (exactFit values).slope (exactFit values).intercept =
      spread values - crossSpread values ^ 2 / positionSpread values.length := by
  obtain ⟨hslope, hintercept, -⟩ := exactFit_eq h
  have hpositions := (positionSpread_pos h).ne'
  rw [squaredError_eq_moments, hintercept, hslope]
  field_simp
  ring

lemma excess_nonneg (h : 2 ≤ values.length) (slope intercept : ℚ) :
    0 ≤ positionSpread values.length * (slope - (exactFit values).slope) ^ 2 ∧
      0 ≤ (values.length : ℚ) *
        (exactMean values - (intercept + slope * middle values.length)) ^ 2 :=
  ⟨mul_nonneg (positionSpread_pos h).le (sq_nonneg _), by positivity⟩

/-- No line fits better. -/
lemma squaredError_fit_le (h : 2 ≤ values.length) (slope intercept : ℚ) :
    squaredError values (exactFit values).slope (exactFit values).intercept ≤
      squaredError values slope intercept := by
  obtain ⟨hslope, hheight⟩ := excess_nonneg h slope intercept
  rw [squaredError_eq_fit h slope intercept]
  linarith

/-- A line that fits as well is the same one. -/
lemma eq_fit_of_squaredError_le (h : 2 ≤ values.length) {slope intercept : ℚ}
    (hle : squaredError values slope intercept ≤
      squaredError values (exactFit values).slope (exactFit values).intercept) :
    slope = (exactFit values).slope ∧ intercept = (exactFit values).intercept := by
  obtain ⟨hslope, hheight⟩ := excess_nonneg h slope intercept
  rw [squaredError_eq_fit h] at hle
  have hslope : positionSpread values.length * (slope - (exactFit values).slope) ^ 2 = 0 := by
    linarith
  have hheight : (values.length : ℚ) *
      (exactMean values - (intercept + slope * middle values.length)) ^ 2 = 0 := by
    linarith
  rw [mul_eq_zero, or_iff_right (positionSpread_pos h).ne', pow_eq_zero_iff two_ne_zero,
    sub_eq_zero] at hslope
  rw [mul_eq_zero, or_iff_right (Nat.cast_ne_zero.2 (by omega)), pow_eq_zero_iff two_ne_zero,
    hslope] at hheight
  refine ⟨hslope, ?_⟩
  rw [(exactFit_eq h).2.1]
  linarith

lemma squaredError_nonneg (values : List ℚ) (slope intercept : ℚ) :
    0 ≤ squaredError values slope intercept :=
  sum_nonneg fun _ _ => sq_nonneg _

lemma squaredError_eq_zero {slope intercept : ℚ} :
    squaredError values slope intercept = 0 ↔ OnLine values slope intercept := by
  unfold squaredError OnLine
  rw [sum_eq_zero_iff_of_nonneg fun _ _ => sq_nonneg _]
  simp [sub_eq_zero]

/-- Values without spread are equal. -/
lemma spread_eq_zero : spread values = 0 ↔ ∀ x ∈ values, ∀ y ∈ values, x = y := by
  unfold spread
  rw [sum_eq_zero_iff_of_nonneg fun _ _ => sq_nonneg _]
  constructor
  · intro h
    have hmean : ∀ x ∈ values, x = values.sum / values.length := by
      intro x hx
      obtain ⟨i, hi, rfl⟩ := List.getElem_of_mem hx
      have hpoint := h ⟨i, hi⟩ (mem_univ _)
      exact sub_eq_zero.1 (pow_eq_zero_iff two_ne_zero |>.1 hpoint)
    intro x hx y hy
    exact (hmean x hx).trans (hmean y hy).symm
  · intro h i _
    have hne : values ≠ [] := List.ne_nil_of_length_pos i.pos
    have hmem : values[i] ∈ values := List.getElem_mem _
    have hmean : values[i] ≤ exactMean values ∧ exactMean values ≤ values[i] :=
      exactMean_between hne (fun x hx => (h values[i] hmem x hx).le)
        (fun x hx => (h x hx values[i] hmem).le)
    rw [← exactMean_eq, le_antisymm hmean.1 hmean.2, sub_self, sq, zero_mul]

/-- Of values that differ, the fitted line explains a share of the spread, and nothing is cut off. -/
lemma rSquared_eq (h : 2 ≤ values.length) (hspread : 0 < spread values) :
    (exactFit values).rSquared =
      1 - squaredError values (exactFit values).slope (exactFit values).intercept / spread values ∧
    0 ≤ (exactFit values).rSquared ∧ (exactFit values).rSquared ≤ 1 := by
  obtain ⟨-, -, hrSquared⟩ := exactFit_eq h
  set error := squaredError values (exactFit values).slope (exactFit values).intercept
  have hlow : 0 ≤ 1 - error / spread values := by
    have hle : error ≤ spread values := by
      have hpositions := positionSpread_pos h
      have hexplained : 0 ≤ crossSpread values ^ 2 / positionSpread values.length := by positivity
      rw [show error = _ from squaredError_fit h]
      linarith
    rw [sub_nonneg, div_le_one hspread]
    exact hle
  have hhigh : 1 - error / spread values ≤ 1 := by
    have herror := squaredError_nonneg values (exactFit values).slope (exactFit values).intercept
    have hshare : 0 ≤ error / spread values := div_nonneg herror hspread.le
    linarith
  rw [if_neg hspread.ne', exact_clamp hlow hhigh] at hrSquared
  exact ⟨hrSquared, hrSquared ▸ hlow, hrSquared ▸ hhigh⟩

/-- Everything is explained exactly if the points are on a line that is not flat. -/
lemma rSquared_eq_one (h : 2 ≤ values.length) :
    (exactFit values).rSquared = 1 ↔
      ∃ slope intercept, slope ≠ 0 ∧ OnLine values slope intercept := by
  obtain ⟨hslope, -, hrSquared⟩ := exactFit_eq h
  have hpositions := (positionSpread_pos h).ne'
  have hnonneg : 0 ≤ spread values := sum_nonneg fun _ _ => sq_nonneg _
  constructor
  · intro hone
    have hspread : spread values ≠ 0 := by
      intro hzero
      rw [if_pos hzero, hone] at hrSquared
      exact one_ne_zero hrSquared
    rw [(rSquared_eq h (hnonneg.lt_of_ne' hspread)).1, sub_eq_self, div_eq_zero_iff,
      or_iff_left hspread] at hone
    refine ⟨_, _, fun hflat => ?_, squaredError_eq_zero.1 hone⟩
    -- A flat line would leave the whole spread unexplained.
    rw [hslope, div_eq_zero_iff, or_iff_left hpositions] at hflat
    rw [squaredError_fit h, hflat, zero_pow two_ne_zero, zero_div, sub_zero] at hone
    exact hspread hone
  · rintro ⟨slope, intercept, hsteep, hline⟩
    have hspread : spread values ≠ 0 := by
      intro hzero
      have hequal := spread_eq_zero.1 hzero _ (List.getElem_mem (show 0 < values.length by omega)) _
        (List.getElem_mem (show 1 < values.length by omega))
      have hfirst : values[0] = intercept + slope * (0 : ℕ) := hline ⟨0, by omega⟩
      have hsecond : values[1] = intercept + slope * (1 : ℕ) := hline ⟨1, by omega⟩
      rw [hfirst, hsecond, add_right_inj, Nat.cast_zero, mul_zero, Nat.cast_one, mul_one] at hequal
      exact hsteep hequal.symm
    have hzero : squaredError values (exactFit values).slope (exactFit values).intercept = 0 :=
      le_antisymm ((squaredError_fit_le h slope intercept).trans_eq (squaredError_eq_zero.2 hline))
        (squaredError_nonneg ..)
    rw [(rSquared_eq h (hnonneg.lt_of_ne' hspread)).1, hzero, zero_div, sub_zero]

end Fit

/-! ### Series that are moved or reversed -/

section Symmetry

variable {values : List ℚ}

lemma getD_map_add {i : ℕ} (hi : i < values.length) (c : ℚ) :
    (values.map (· + c)).getD i 0 = values.getD i 0 + c := by
  rw [List.getD_eq_getElem _ _ hi, List.getD_eq_getElem _ _ (by simpa using hi), List.getElem_map]

lemma exactMean_map_add (hne : values ≠ []) (c : ℚ) :
    exactMean (values.map (· + c)) = exactMean values + c := by
  have hlength : (values.length : ℚ) ≠ 0 := by simpa using hne
  rw [exactMean_eq, exactMean_eq, List.sum_map_add, List.map_id', List.map_const', List.sum_replicate,
    List.length_map, nsmul_eq_mul, add_div, mul_div_cancel_left₀ _ hlength]

/-- Moving all values by a constant moves none of them against the mean. -/
lemma sum_deviations_map_add {f : ℕ → ℚ → ℚ} (hne : values ≠ []) (c : ℚ) :
    ∑ i ∈ range (values.map (· + c)).length,
        f i ((values.map (· + c)).getD i 0 - exactMean (values.map (· + c))) =
      ∑ i ∈ range values.length, f i (values.getD i 0 - exactMean values) := by
  rw [List.length_map]
  refine sum_congr rfl fun i hi => ?_
  rw [getD_map_add (mem_range.1 hi), exactMean_map_add hne, add_sub_add_right_eq_sub]

lemma crossSpread_map_add (hne : values ≠ []) (c : ℚ) :
    crossSpread (values.map (· + c)) = crossSpread values := by
  have hmoved := sum_deviations_map_add (f := fun i d => (i - middle values.length) * d) hne c
  simpa [crossSpread] using hmoved

lemma spread_map_add (hne : values ≠ []) (c : ℚ) :
    spread (values.map (· + c)) = spread values := by
  rw [spread_eq_sum, spread_eq_sum]
  exact sum_deviations_map_add (f := fun _ d => d ^ 2) hne c

lemma exactFit_map_add (h : 2 ≤ values.length) (c : ℚ) :
    (exactFit (values.map (· + c))).slope = (exactFit values).slope ∧
      (exactFit (values.map (· + c))).rSquared = (exactFit values).rSquared := by
  have hne : values ≠ [] := List.ne_nil_of_length_pos (by omega)
  have h' : 2 ≤ (values.map (· + c)).length := by simpa using h
  have hslope : (exactFit (values.map (· + c))).slope = (exactFit values).slope := by
    rw [(exactFit_eq h').1, (exactFit_eq h).1, crossSpread_map_add hne, List.length_map]
  refine ⟨hslope, ?_⟩
  rw [(exactFit_eq h').2.2, (exactFit_eq h).2.2, squaredError_fit h', squaredError_fit h,
    spread_map_add hne, crossSpread_map_add hne, List.length_map]

lemma exactMean_reverse (values : List ℚ) : exactMean values.reverse = exactMean values := by
  rw [exactMean_eq, exactMean_eq, List.sum_reverse, List.length_reverse]

/-- Read backwards, each value stands as far from the middle as before, on the other side. -/
lemma crossSpread_reverse (values : List ℚ) :
    crossSpread values.reverse = -crossSpread values := by
  unfold crossSpread
  rw [List.length_reverse, ← sum_range_reflect, ← sum_neg_distrib]
  refine sum_congr rfl fun i hi => ?_
  have hi := mem_range.1 hi
  have hposition : ((values.length - 1 - i : ℕ) : ℚ) = values.length - 1 - i := by
    rw [Nat.cast_sub (by omega), Nat.cast_sub (by omega), Nat.cast_one]
  have hvalue : values.reverse.getD (values.length - 1 - i) 0 = values.getD i 0 := by
    rw [List.getD_eq_getElem _ _ hi, List.getD_eq_getElem _ _ (by simp; omega), List.getElem_reverse]
    congr 1
    omega
  rw [hposition, hvalue, exactMean_reverse, middle]
  ring

lemma exactFit_reverse (h : 2 ≤ values.length) :
    (exactFit values.reverse).slope = -(exactFit values).slope := by
  rw [(exactFit_eq h).1, (exactFit_eq (by simpa using h)).1, crossSpread_reverse,
    List.length_reverse, neg_div]

end Symmetry

/-! ### Division by zero -/

section Checked

/-- Arithmetic in which a quotient by zero is no number, and neither is anything computed from it. -/
@[reducible] def checkedFigures : Scalar (Option ℚ) where
  add x y := x.bind fun a => y.map (a + ·)
  sub x y := x.bind fun a => y.map (a - ·)
  mul x y := x.bind fun a => y.map (a * ·)
  div x y := x.bind fun a => y.bind fun b => if b = 0 then none else some (a / b)
  neg x := x.map (- ·)
  lt x y := ∃ a ∈ x, ∃ b ∈ y, a < b
  le x y := ∃ a ∈ x, ∃ b ∈ y, a ≤ b
  ofCount n := some n
  decLt x y := inferInstanceAs (Decidable (∃ a ∈ x, ∃ b ∈ y, a < b))
  decLe x y := inferInstanceAs (Decidable (∃ a ∈ x, ∃ b ∈ y, a ≤ b))
  whole x := x.elim 0 fun a => saturatedWord ⌊a⌋₊
  sqrt x := x.map Rat.sqrt
  sortsBefore x y := decide (∃ a ∈ x, ∃ b ∈ y, a ≤ b)

/-- A fitted line if no quotient by zero is asked for. -/
abbrev checkedFit : List (Option ℚ) → LineFit (Option ℚ) :=
  @LineFit.ofValues (Option ℚ) checkedFigures

attribute [local instance] checkedFigures

lemma checked_ofCount (n : ℕ) : (Scalar.ofCount n : Option ℚ) = some (n : ℚ) := rfl

lemma checked_zero : (Scalar.zero : Option ℚ) = some 0 := congrArg some Nat.cast_zero

lemma checked_add (x y : ℚ) : some x + some y = some (x + y) := rfl

lemma checked_sub (x y : ℚ) : some x - some y = some (x - y) := rfl

lemma checked_mul (x y : ℚ) : some x * some y = some (x * y) := rfl

lemma checked_div (x : ℚ) {y : ℚ} (h : y ≠ 0) : some x / some y = some (x / y) := if_neg h

lemma checked_lt (x y : ℚ) : checkedFigures.toLT.lt (some x) (some y) ↔ x < y := by
  change (∃ a ∈ some x, ∃ b ∈ some y, a < b) ↔ x < y
  simp

lemma checked_le (x y : ℚ) : checkedFigures.toLE.le (some x) (some y) ↔ x ≤ y := by
  change (∃ a ∈ some x, ∃ b ∈ some y, a ≤ b) ↔ x ≤ y
  simp

lemma checked_same (x y : ℚ) : Scalar.same (some x) (some y) = true ↔ x = y := by
  unfold Scalar.same
  rw [Bool.and_eq_true, decide_eq_true_eq, decide_eq_true_eq, checked_le, checked_le]
  exact antisymm_iff

lemma checked_clamp {x low high : ℚ} (hlow : low ≤ x) (hhigh : x ≤ high) :
    Scalar.clamp (some x) (some low) (some high) = some x := by
  unfold Scalar.clamp
  rw [if_neg (mt (checked_lt ..).1 (not_lt.2 hlow)), if_neg (mt (checked_lt ..).1 (not_lt.2 hhigh))]

lemma checked_foldl_add (l : List ℚ) (x : ℚ) :
    (l.map some).foldl (· + ·) (some x) = some (x + l.sum) := by
  induction l generalizing x with
  | nil => simp
  | cons y l ih => rw [List.map_cons, List.foldl_cons, checked_add, ih, List.sum_cons, add_assoc]

lemma checked_sum (l : List ℚ) : Scalar.sum (l.map some) = some l.sum := by
  cases l with
  | nil => exact checked_zero
  | cons x l => exact checked_foldl_add l x

lemma checked_sum_map {α : Type} (f : α → ℚ) (l : List α) :
    Scalar.sum (l.map fun a => some (f a)) = some (l.map f).sum := by
  rw [← checked_sum, List.map_map]
  rfl

lemma checked_mean {l : List ℚ} (hne : l ≠ []) : mean (l.map some) = some (exactMean l) := by
  have hlength : (l.length : ℚ) ≠ 0 := by simpa using hne
  unfold mean
  rw [if_neg (by simpa using hne), checked_sum, List.length_map, exactMean_eq, checked_ofCount,
    checked_div _ hlength]

variable {values : List ℚ}

lemma checked_foldl_moments {step : Option ℚ × Option ℚ → Option ℚ × ℕ → Option ℚ × Option ℚ}
    (h : ∀ x y value i, step (some x, some y) (some value, i) =
      (some (x + (i - middle values.length) * (value - exactMean values)),
        some (y + (i - middle values.length) * (i - middle values.length)))) :
    (values.zipIdx.map (Prod.map some id)).foldl step (some 0, some 0) =
      (some (crossSpread values), some (positionSpread values.length)) := by
  have hstep (sums : ℚ × ℚ) (point : ℚ × ℕ) := h sums.1 sums.2 point.1 point.2
  rw [List.foldl_map]
  exact (List.foldl_hom (Prod.map some some) hstep).trans
    (congrArg _ (foldl_moments fun _ _ => rfl))

lemma checkedFit_eq (h : 2 ≤ values.length) :
    checkedFit (values.map some) = ⟨some (exactFit values).slope, some (exactFit values).intercept,
      some (exactFit values).rSquared⟩ := by
  have hne : values ≠ [] := List.ne_nil_of_length_pos (by omega)
  have hfit : checkedFit (values.map some) = _ := if_neg (by rw [List.length_map]; omega)
  have hpoints : (values.map some).zipIdx = values.zipIdx.map (Prod.map some id) :=
    List.zipIdx_map ..
  have hcentre : some ((values.length : ℚ) - (1 : ℕ)) / some ((2 : ℕ) : ℚ) =
      some (middle values.length) := by
    rw [checked_div _ (by norm_num), Nat.cast_one, Nat.cast_ofNat, middle]
  rw [hfit, checked_mean hne, hpoints, List.length_map]
  simp only [checked_ofCount, checked_zero, checked_sub, hcentre]
  rw [checked_foldl_moments fun _ _ _ _ => rfl]
  dsimp only
  rw [checked_div _ (positionSpread_pos h).ne', ← (exactFit_eq h).1]
  simp only [List.map_map, Function.comp_def, Prod.map_fst, Prod.map_snd, id, checked_add, checked_sub,
    checked_mul, checked_sum_map, sum_spread, sum_error, checked_same, ← (exactFit_eq h).2.1]
  congr 1
  have hnonneg : 0 ≤ spread values := sum_nonneg fun _ _ => sq_nonneg _
  by_cases hspread : spread values = 0
  · rw [if_pos hspread, (exactFit_eq h).2.2, if_pos hspread]
  · obtain ⟨hrSquared, hlow, hhigh⟩ := rSquared_eq h (hnonneg.lt_of_ne' hspread)
    rw [if_neg hspread, checked_div _ hspread, checked_sub, Nat.cast_one, ← hrSquared,
      checked_clamp hlow hhigh]

end Checked

/-- What a line fitted to the points of a series is. No quotient by zero is asked for, and no other
line has as small an error. Of values that differ it explains the share of the spread that its error
leaves, which needs no cutting off. -/
structure IsLeastSquares (values : List ℚ) (fit : LineFit ℚ) : Prop where
  defined : checkedFit (values.map some) = ⟨some fit.slope, some fit.intercept, some fit.rSquared⟩
  least (slope intercept : ℚ) :
    squaredError values fit.slope fit.intercept ≤ squaredError values slope intercept
  unique {slope intercept : ℚ} :
    squaredError values slope intercept ≤ squaredError values fit.slope fit.intercept →
      slope = fit.slope ∧ intercept = fit.intercept
  explained : (∃ x ∈ values, ∃ y ∈ values, x ≠ y) →
    fit.rSquared = 1 - squaredError values fit.slope fit.intercept / spread values ∧
      0 ≤ fit.rSquared ∧ fit.rSquared ≤ 1
  flat : (∀ x ∈ values, ∀ y ∈ values, x = y) → fit.rSquared = 0
  straight : fit.rSquared = 1 ↔ ∃ slope intercept, slope ≠ 0 ∧ OnLine values slope intercept

/-- A trend is the least-squares line of its series. Moving every value by the same amount changes
neither its slope nor what it explains, and reading the series backwards negates its slope. -/
theorem trend_line_least_squares (values : List ℚ) (h : 2 ≤ values.length) :
    IsLeastSquares values (exactFit values) ∧
    (∀ c, (exactFit (values.map (· + c))).slope = (exactFit values).slope ∧
      (exactFit (values.map (· + c))).rSquared = (exactFit values).rSquared) ∧
    (exactFit values.reverse).slope = -(exactFit values).slope := by
  refine ⟨?_, exactFit_map_add h, exactFit_reverse h⟩
  constructor
  case defined => exact checkedFit_eq h
  case least => exact squaredError_fit_le h
  case unique =>
    intro slope intercept hle
    exact eq_fit_of_squaredError_le h hle
  case explained =>
    rintro ⟨x, hx, y, hy, hne⟩
    refine rSquared_eq h ((sum_nonneg fun _ _ => sq_nonneg _).lt_of_ne' fun hzero => ?_)
    exact hne (spread_eq_zero.1 hzero x hx y hy)
  case flat =>
    intro hequal
    rw [(exactFit_eq h).2.2, if_pos (spread_eq_zero.2 hequal)]
  case straight => exact rSquared_eq_one h

theorem trend_line_least_squares_three :
    (exactFit [2, 1, 4]).slope = 1 ∧ (exactFit [2, 1, 4]).intercept = 4 / 3 ∧
      (exactFit [2, 1, 4]).rSquared = 3 / 7 ∧ IsLeastSquares [2, 1, 4] (exactFit [2, 1, 4]) ∧
      (exactFit [7, 6, 9]).slope = 1 ∧ (exactFit [4, 1, 2]).slope = -1 := by
  have hslope : (exactFit [2, 1, 4]).slope = 1 := by decide +kernel
  obtain ⟨hleast, hmoved, hreversed⟩ := trend_line_least_squares [2, 1, 4] (by decide)
  refine ⟨hslope, by decide +kernel, by decide +kernel, hleast, ?_, ?_⟩
  · have hmoved := (hmoved 5).1
    rw [hslope] at hmoved
    norm_num at hmoved
    exact hmoved
  · rw [hslope] at hreversed
    exact hreversed

end LoadTest.Proofs
