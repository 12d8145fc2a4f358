import LoadTest.Analysis.Comparison
import LoadTest.Proofs.SignedFloats

/-!
# Worse figures are judged no better

A comparison has nine outcomes, from an exceptional improvement to a critical regression. Against
the same finite baseline, a figure that is at least as unfavourable never has a better outcome. The
relative change of a figure is monotone after rounding, whatever the sign of the baseline, and from
it on every step only compares.
-/

namespace LoadTest.Proofs

open Scalar

/-! ### Zero and the size of a float -/

section Zero

variable {x y : Float}

lemma isNaN_zero : (zero : Float).isNaN = false := by decide +kernel

lemma signedRank_zero : signedRank (zero : Float) = 0 := by decide +kernel

lemma lt_zero_iff (hx : x.isNaN = false) : x < zero ↔ signedRank x < 0 := by
  rw [lt_iff_signedRank hx isNaN_zero, signedRank_zero]

lemma le_zero_iff (hx : x.isNaN = false) : x ≤ zero ↔ signedRank x ≤ 0 := by
  rw [le_iff_signedRank hx isNaN_zero, signedRank_zero]

lemma same_zero_iff (hx : x.isNaN = false) : same x zero = true ↔ signedRank x = 0 := by
  unfold same
  rw [Bool.and_eq_true, decide_eq_true_iff, decide_eq_true_iff, le_zero_iff hx,
    le_iff_signedRank isNaN_zero hx, signedRank_zero]
  omega

lemma unpack_scalar_zero : (zero : Float).toModel.unpack = .zero .positive := by rfl

lemma signedRank_zero_sub (hx : x.isFinite = true) : signedRank (zero - x) = -signedRank x := by
  have hvalue : value (zero : Float) = 0 := by rw [value, unpack_scalar_zero, partsValue_zero]
  have hround := (rounds_sub hx).finite zero (by decide +kernel)
  rw [hround, hvalue, zero_sub, signedRound_neg, signedRank_eq_signedRound hx]

lemma signedRank_add_zero (hx : x.isNaN = false) : signedRank (x + zero) = signedRank x := by
  obtain ⟨hnumber, hplace⟩ := isNumber_of_isNaN hx
  have hrank : signedRank (x + zero) = packedPlace
      (.add .binary64 x.toModel.unpack (zero : Float).toModel.unpack) := rfl
  rw [hrank, unpack_scalar_zero, packedPlace_add_zero hnumber, hplace]

/-- The size of a float other than zero is a positive float. -/
lemma abs_positive (hx : x.isFinite = true) (hne : signedRank x ≠ 0) :
    (abs x).isFinite = true ∧ 0 < signedRank (abs x) := by
  have hnan := isNaN_of_isFinite hx
  have hsize : signedRank (abs x) = |signedRank x| := by
    unfold Scalar.abs
    by_cases hneg : x < zero
    · rw [if_pos hneg, signedRank_zero_sub hx, abs_of_neg ((lt_zero_iff hnan).1 hneg)]
    · rw [if_neg hneg, signedRank_add_zero hnan,
        abs_of_nonneg (not_lt.1 (mt (lt_zero_iff hnan).2 hneg))]
  constructor
  · apply isFinite_of_signedRank
    rw [hsize, abs_abs]
    exact abs_signedRank_lt hx
  · rw [hsize]
    exact abs_pos.2 hne

end Zero

/-! ### Relative changes -/

section Change

variable {baseline x y : Float} {minus : Bool}

lemma hundred_positive :
    (ofCount 100 : Float).isFinite = true ∧ 0 < signedRank (ofCount 100 : Float) := by
  decide +kernel

/-- The sign of a number is that of its rank. -/
lemma isNegative_iff (hx : x.isNaN = false) : isNegative x minus = true ↔ signedRank x < 0 := by
  have hself : same x x = true := by
    unfold same
    rw [Bool.and_self, decide_eq_true_iff, le_iff_signedRank hx hx]
  unfold isNegative
  rw [hself, Bool.not_true, Bool.false_and, Bool.or_false, decide_eq_true_iff, lt_zero_iff hx]

/-- From a baseline of zero only the sign of a figure counts. -/
lemma percentChange_of_zero (hbaseline : same baseline zero = true) (hx : x.isNaN = false) :
    percentChange baseline x minus =
      if signedRank x = 0 then zero
      else if signedRank x < 0 then -ofCount 100 else ofCount 100 := by
  unfold percentChange
  rw [if_pos hbaseline]
  simp only [same_zero_iff hx, isNegative_iff hx]

lemma percentChange_mono (hbaseline : baseline.isFinite = true) (h : x ≤ y) :
    percentChange baseline x minus ≤ percentChange baseline y minus := by
  obtain ⟨hx, hy⟩ := isNaN_of_le h
  by_cases hzero : same baseline zero = true
  · have hrank := (le_iff_signedRank hx hy).1 h
    have hlow : -(ofCount 100 : Float) ≤ zero := by decide +kernel
    have hhigh : (zero : Float) ≤ ofCount 100 := by decide +kernel
    rw [percentChange_of_zero hzero hx, percentChange_of_zero hzero hy]
    split_ifs
    · decide +kernel
    · omega
    · exact hhigh
    · exact hlow
    · decide +kernel
    · exact float_le_trans hlow hhigh
    · omega
    · omega
    · decide +kernel
  · have hne := mt (same_zero_iff (isNaN_of_isFinite hbaseline)).2 hzero
    obtain ⟨hsize, hpos⟩ := abs_positive hbaseline hne
    obtain ⟨hhundred, hhundred'⟩ := hundred_positive
    unfold percentChange
    rw [if_neg hzero, if_neg hzero]
    apply float_mul_mono hhundred hhundred'
    apply float_div_mono hsize hpos
    exact float_sub_mono hbaseline h

end Change

/-! ### Outcomes -/

section Outcomes

def severityLevel : Severity → ℕ
  | .low => 5
  | .medium => 6
  | .high => 7
  | .critical => 8

def significanceLevel : Significance → ℕ
  | .exceptional => 0
  | .major => 1
  | .moderate => 2
  | .minor => 3

/-- The place of an outcome among the nine, from the best to the worst. -/
def outcomeLevel {α : Type} : Comparison α → ℕ
  | .improvement finding => significanceLevel finding.significance
  | .unchanged => 4
  | .regression finding => severityLevel finding.severity

variable {threshold improvement d d' : Float}

/-- How many of three bounds, from the highest down, a figure reaches. -/
def rungs (high middle low x : Float) : ℕ :=
  if high ≤ x then 3 else if middle ≤ x then 2 else if low ≤ x then 1 else 0

lemma rungs_mono (high middle low : Float) {x y : Float} (h : x ≤ y) :
    rungs high middle low x ≤ rungs high middle low y := by
  have hreach {bound : Float} (hx : bound ≤ x) : bound ≤ y := float_le_trans hx h
  unfold rungs
  by_cases hhigh : high ≤ x
  · rw [if_pos hhigh, if_pos (hreach hhigh)]
  · rw [if_neg hhigh]
    by_cases hmiddle : middle ≤ x
    · rw [if_pos hmiddle, if_pos (hreach hmiddle)]
      split_ifs <;> omega
    · rw [if_neg hmiddle]
      by_cases hlow : low ≤ x
      · rw [if_pos hlow, if_pos (hreach hlow)]
        split_ifs <;> omega
      · rw [if_neg hlow]
        exact Nat.zero_le _

lemma severityLevel_eq (hthreshold : ¬threshold ≤ zero) :
    severityLevel (.ofDegradation d threshold) =
      5 + rungs (ofCount 3) (ofCount 2) (ofCount 3 / ofCount 2) (d / threshold) := by
  unfold Severity.ofDegradation rungs
  rw [if_neg hthreshold]
  dsimp only
  split_ifs <;> rfl

lemma significanceLevel_eq :
    significanceLevel (.ofImprovement d) + rungs (ofCount 50) (ofCount 25) (ofCount 10) d = 3 := by
  unfold Significance.ofImprovement rungs
  split_ifs <;> rfl

/-- A larger part of the threshold is at least as severe. -/
lemma severityLevel_mono (hthreshold : threshold < d) (h : d ≤ d') :
    severityLevel (.ofDegradation d threshold) ≤ severityLevel (.ofDegradation d' threshold) := by
  obtain ⟨hnan, hd⟩ := isNaN_of_lt hthreshold
  by_cases hzero : threshold ≤ zero
  · unfold Severity.ofDegradation
    rw [if_pos hzero, if_pos hzero]
  · have hpos : 0 < signedRank threshold := not_le.1 (mt (le_zero_iff hnan).2 hzero)
    have hfinite : threshold.isFinite = true := by
      apply isFinite_of_signedRank
      rw [abs_of_pos hpos]
      exact ((lt_iff_signedRank hnan hd).1 hthreshold).trans_le
        ((le_abs_self _).trans (abs_signedRank_le hd))
    rw [severityLevel_eq hzero, severityLevel_eq hzero]
    exact Nat.add_le_add_left (rungs_mono _ _ _ (float_div_mono hfinite hpos h)) 5

/-- A larger improvement is at least as significant. -/
lemma significanceLevel_anti (h : d ≤ d') :
    significanceLevel (.ofImprovement d') ≤ significanceLevel (.ofImprovement d) := by
  have hrungs := rungs_mono (ofCount 50) (ofCount 25) (ofCount 10) h
  have heq := significanceLevel_eq (d := d)
  have heq' := significanceLevel_eq (d := d')
  omega

lemma five_le_severityLevel (s : Severity) : 5 ≤ severityLevel s := by
  cases s <;> decide

lemma significanceLevel_le_three (s : Significance) : significanceLevel s ≤ 3 := by
  cases s <;> decide

/-- The outcome of a degradation. -/
def degradationLevel (threshold improvement d : Float) : ℕ :=
  if threshold < d then severityLevel (.ofDegradation d threshold)
  else if improvement < -d then significanceLevel (.ofImprovement (-d))
  else 4

lemma degradationLevel_mono (h : d ≤ d') :
    degradationLevel threshold improvement d ≤ degradationLevel threshold improvement d' := by
  have hflip := float_neg_le_neg h
  unfold degradationLevel
  by_cases hregression : threshold < d
  · rw [if_pos hregression, if_pos (float_lt_of_lt_of_le hregression h)]
    exact severityLevel_mono hregression h
  · have hlow := significanceLevel_le_three (.ofImprovement (-d))
    have hhigh := five_le_severityLevel (.ofDegradation d' threshold)
    rw [if_neg hregression]
    by_cases himprovement : improvement < -d'
    · have hanti := significanceLevel_anti hflip
      rw [if_pos (float_lt_of_lt_of_le himprovement hflip), if_pos himprovement]
      split_ifs <;> omega
    · rw [if_neg himprovement]
      split_ifs <;> omega

lemma outcomeLevel_compare (s : MetricSample Float) (thresholds : RegressionThresholds Float) :
    outcomeLevel (s.compare thresholds improvement) =
      degradationLevel (thresholds.forKind s.kind) improvement
        (s.kind.degradation (percentChange s.baseline s.current s.minus)) := by
  unfold MetricSample.compare degradationLevel
  dsimp only
  split_ifs <;> rfl

end Outcomes

/-- A lower throughput is as bad or worse, and a higher figure of every other kind. -/
def AtLeastAsBad (kind : MetricKind) (x y : Float) : Prop :=
  match kind with
  | .throughput => y ≤ x
  | _ => x ≤ y

lemma degradation_mono {kind : MetricKind} {baseline x y : Float} {minus : Bool}
    (hbaseline : baseline.isFinite = true) (h : AtLeastAsBad kind x y) :
    kind.degradation (percentChange baseline x minus) ≤
      kind.degradation (percentChange baseline y minus) := by
  cases kind with
  | throughput => exact float_neg_le_neg (percentChange_mono hbaseline h)
  | responseTime | memory | errorRate | cpu => exact percentChange_mono hbaseline h

/-- A figure that is at least as unfavourable as another has no better outcome against the same
baseline, be it positive, zero or negative. -/
theorem worse_judged_no_better (s : MetricSample Float) (worse : Float)
    (thresholds : RegressionThresholds Float) (improvementThreshold : Float)
    (hbaseline : s.baseline.isFinite = true) (hworse : AtLeastAsBad s.kind s.current worse) :
    outcomeLevel (s.compare thresholds improvementThreshold) ≤
      outcomeLevel ({ s with current := worse }.compare thresholds improvementThreshold) := by
  rw [outcomeLevel_compare, outcomeLevel_compare]
  apply degradationLevel_mono
  exact degradation_mono hbaseline hworse

/-- A throughput with a negative baseline, far above it. -/
def risenThroughput : MetricSample Float where
  category := .benchmark
  item := "checkout"
  metric := "requests_per_second"
  kind := .throughput
  baseline := -2.0
  current := 4.0

theorem worse_judged_no_better_negative :
    outcomeLevel (risenThroughput.compare .standard 5.0) = 0 ∧
      outcomeLevel ({ risenThroughput with current := -4.0 }.compare .standard 5.0) = 8 ∧
      outcomeLevel (risenThroughput.compare .standard 5.0) ≤
        outcomeLevel ({ risenThroughput with current := -4.0 }.compare .standard 5.0) := by
  have hfallen : (-4.0 : Float) ≤ 4.0 := by decide +kernel
  refine ⟨by decide +kernel, by decide +kernel, ?_⟩
  exact worse_judged_no_better risenThroughput (-4.0) .standard 5.0 (by decide +kernel) hfallen

end LoadTest.Proofs
