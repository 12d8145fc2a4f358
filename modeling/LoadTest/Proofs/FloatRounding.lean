import LoadTest.Number.BinaryFraction
import Mathlib

/-!
# Rounding of floats

Floats of no negative value are ordered as their bit patterns, so a float has a `rank` among them.
Its value is `m * 2 ^ e` for a canonical pair of a mantissa and an exponent. A product or quotient
of positive floats is the float nearest to the exact one, and a half goes to the even mantissa.
The rank of the result is therefore monotone in the exact product or quotient.
-/

namespace LoadTest.Proofs

open Float.Model Float.Model.UnpackedFloat

/-! ### Nearest whole numbers -/

section Nearest

/-- The natural number nearest to `x`; a half goes to the even one. -/
def nearestEven (x : ℚ) : ℕ :=
  if x - ⌊x⌋₊ < 1 / 2 then ⌊x⌋₊
  else if 1 / 2 < x - ⌊x⌋₊ then ⌊x⌋₊ + 1
  else ⌊x⌋₊ + ⌊x⌋₊ % 2

variable {x y : ℚ}

lemma floor_le_nearestEven (x : ℚ) : ⌊x⌋₊ ≤ nearestEven x := by
  unfold nearestEven
  split_ifs <;> omega

lemma nearestEven_le_floor_succ (x : ℚ) : nearestEven x ≤ ⌊x⌋₊ + 1 := by
  unfold nearestEven
  split_ifs <;> omega

lemma nearestEven_mono (h : x ≤ y) : nearestEven x ≤ nearestEven y := by
  obtain hlt | heq := (Nat.floor_mono h).lt_or_eq
  · calc nearestEven x ≤ ⌊x⌋₊ + 1 := nearestEven_le_floor_succ x
      _ ≤ ⌊y⌋₊ := hlt
      _ ≤ nearestEven y := floor_le_nearestEven y
  · -- Within one unit only the distance to its lower end counts.
    unfold nearestEven
    rw [← heq]
    split_ifs <;> first | omega | linarith

@[simp] lemma nearestEven_natCast (n : ℕ) : nearestEven n = n := by
  simp [nearestEven]

lemma nearestQuotient_eq {n d : ℕ} (hd : 0 < d) : nearestQuotient n d = nearestEven (n / d) := by
  have hpos : (0 : ℚ) < d := by exact_mod_cast hd
  have hfloor : ⌊(n / d : ℚ)⌋₊ = n / d := Nat.floor_div_eq_div n d
  have hrest : (n / d : ℚ) - (n / d : ℕ) = (n % d : ℕ) / d := by
    have hsplit : (n : ℚ) = d * (n / d : ℕ) + (n % d : ℕ) := by exact_mod_cast (Nat.div_add_mod n d).symm
    rw [eq_div_iff hpos.ne', sub_mul, div_mul_cancel₀ _ hpos.ne']
    linarith
  have hbelow : (n % d : ℕ) / (d : ℚ) < 1 / 2 ↔ 2 * (n % d) < d := by
    rw [div_lt_div_iff₀ hpos two_pos, one_mul, mul_comm]
    exact_mod_cast Iff.rfl
  have habove : 1 / 2 < (n % d : ℕ) / (d : ℚ) ↔ d < 2 * (n % d) := by
    rw [div_lt_div_iff₀ two_pos hpos, one_mul, mul_comm]
    exact_mod_cast Iff.rfl
  simp only [nearestQuotient, nearestEven, hfloor, hrest, hbelow, habove]

end Nearest

/-! ### Rounding to a float -/

section Rank

/-- The rank of infinity, above that of every finite float. -/
def infinityRank : ℕ := 2047 * 2 ^ 52

/-- The exponent of the unit in which a number is rounded. -/
def unitExponent (v : ℚ) : ℤ := max (Int.log 2 v - 52) (-1074)

/-- The rank of the float nearest to a positive number, if the exponents had no end. -/
def roundedRank (v : ℚ) : ℕ :=
  (unitExponent v + 1074).toNat * 2 ^ 52 + nearestEven (v / 2 ^ unitExponent v)

variable {v w : ℚ}

lemma div_unit_lt (v : ℚ) : v / 2 ^ unitExponent v < 2 ^ 53 := by
  have hlog : v < 2 ^ (Int.log 2 v + 1) := by exact_mod_cast Int.lt_zpow_succ_log_self (by decide) v
  rw [div_lt_iff₀ (by positivity)]
  calc v < 2 ^ (Int.log 2 v + 1) := hlog
    _ ≤ 2 ^ (53 + unitExponent v) := by
      apply zpow_le_zpow_right₀ one_le_two
      unfold unitExponent
      omega
    _ = 2 ^ 53 * 2 ^ unitExponent v := by
      rw [zpow_add₀ two_ne_zero]
      norm_cast

/-- A number that is not rounded in the least unit has all bits of the mantissa. -/
lemma le_div_unit (hv : 0 < v) (h : -1074 < unitExponent v) :
    2 ^ 52 ≤ v / 2 ^ unitExponent v := by
  have hlog : 2 ^ Int.log 2 v ≤ v := by exact_mod_cast Int.zpow_log_le_self (by decide) hv
  have hunit : unitExponent v = Int.log 2 v - 52 := by
    unfold unitExponent at h ⊢
    omega
  rw [le_div_iff₀ (by positivity)]
  calc (2 : ℚ) ^ 52 * 2 ^ unitExponent v = 2 ^ Int.log 2 v := by
        rw [hunit, ← zpow_natCast, ← zpow_add₀ two_ne_zero]
        congr 1
        norm_num
    _ ≤ v := hlog

lemma nearestEven_unit_le (v : ℚ) : nearestEven (v / 2 ^ unitExponent v) ≤ 2 ^ 53 := by
  have h := nearestEven_mono (div_unit_lt v).le
  rwa [show (2 : ℚ) ^ 53 = (2 ^ 53 : ℕ) by norm_num, nearestEven_natCast] at h

lemma le_nearestEven_unit (hv : 0 < v) (h : -1074 < unitExponent v) :
    2 ^ 52 ≤ nearestEven (v / 2 ^ unitExponent v) := by
  have h := nearestEven_mono (le_div_unit hv h)
  rwa [show (2 : ℚ) ^ 52 = (2 ^ 52 : ℕ) by norm_num, nearestEven_natCast] at h

lemma unitExponent_ge (v : ℚ) : -1074 ≤ unitExponent v := le_max_right _ _

lemma unitExponent_mono (hv : 0 < v) (h : v ≤ w) : unitExponent v ≤ unitExponent w := by
  have hlog : Int.log 2 v ≤ Int.log 2 w := Int.log_mono_right hv h
  unfold unitExponent
  omega

/-- Rounding keeps the order. -/
theorem roundedRank_mono (hv : 0 < v) (h : v ≤ w) : roundedRank v ≤ roundedRank w := by
  have hw : 0 < w := hv.trans_le h
  have hunit := unitExponent_mono hv h
  have hleast := unitExponent_ge v
  unfold roundedRank
  obtain hlt | heq := hunit.lt_or_eq
  · -- A carry out of the mantissa at most reaches the least mantissa of the next exponent.
    have hlow := nearestEven_unit_le v
    have hhigh := le_nearestEven_unit hw (hleast.trans_lt hlt)
    omega
  · have hnear : nearestEven (v / 2 ^ unitExponent v) ≤ nearestEven (w / 2 ^ unitExponent w) := by
      rw [heq]
      exact nearestEven_mono (by gcongr)
    omega

/-- The pairs of a mantissa and an exponent that floats have. -/
structure Canonical (m : ℕ) (e : ℤ) : Prop where
  mantissa_lt : m < 2 ^ 53
  least_le : -1074 ≤ e
  normal : 2 ^ 52 ≤ m ∨ e = -1074

/-- The rank of the float `m * 2 ^ e`. -/
def canonicalRank (m : ℕ) (e : ℤ) : ℕ := (e + 1074).toNat * 2 ^ 52 + m

lemma log_mul_zpow (hv : 0 < v) (e : ℤ) : Int.log 2 (v * 2 ^ e) = Int.log 2 v + e := by
  have hpos : 0 < v * 2 ^ e := by positivity
  have hlow : (2 : ℚ) ^ Int.log 2 v ≤ v := by exact_mod_cast Int.zpow_log_le_self (by decide) hv
  have hhigh : v < 2 ^ (Int.log 2 v + 1) := by
    exact_mod_cast Int.lt_zpow_succ_log_self (by decide) v
  apply le_antisymm
  · rw [← Int.lt_add_one_iff, ← Int.lt_zpow_iff_log_lt (by decide) hpos]
    push_cast
    calc v * 2 ^ e < 2 ^ (Int.log 2 v + 1) * 2 ^ e := by gcongr
      _ = 2 ^ (Int.log 2 v + e + 1) := by
        rw [← zpow_add₀ two_ne_zero]
        congr 1
        ring
  · rw [← Int.zpow_le_iff_le_log (by decide) hpos]
    push_cast
    calc (2 : ℚ) ^ (Int.log 2 v + e) = 2 ^ Int.log 2 v * 2 ^ e := zpow_add₀ two_ne_zero _ _
      _ ≤ v * 2 ^ e := by gcongr

lemma unitExponent_canonical {m : ℕ} {e : ℤ} (hm : 0 < m) (h : Canonical m e) :
    unitExponent (m * 2 ^ e) = e := by
  have hlog : Int.log 2 ((m : ℚ) * 2 ^ e) = Nat.log 2 m + e := by
    rw [log_mul_zpow (by positivity), Int.log_natCast]
  have hlt : Nat.log 2 m < 53 := Nat.log_lt_of_lt_pow hm.ne' h.mantissa_lt
  have hleast := h.least_le
  unfold unitExponent
  rw [hlog]
  obtain hnormal | hleast := h.normal
  · have hle : 52 ≤ Nat.log 2 m := Nat.le_log_of_pow_le (by decide) hnormal
    omega
  · omega

/-- A float is not rounded. -/
lemma roundedRank_canonical {m : ℕ} {e : ℤ} (hm : 0 < m) (h : Canonical m e) :
    roundedRank (m * 2 ^ e) = canonicalRank m e := by
  unfold roundedRank canonicalRank
  rw [unitExponent_canonical hm h, mul_div_cancel_right₀ _ (by positivity), nearestEven_natCast]

/-- From the power of two after the greatest float on, a number is rounded to infinity. -/
lemma infinityRank_le_roundedRank (h : 2 ^ 1024 ≤ v) : infinityRank ≤ roundedRank v := by
  have hcanonical : Canonical (2 ^ 52) 972 := ⟨by decide, by decide, .inl le_rfl⟩
  have hpower : ((2 ^ 52 : ℕ) : ℚ) * 2 ^ (972 : ℤ) = 2 ^ 1024 := by
    rw [zpow_ofNat, Nat.cast_pow, Nat.cast_ofNat, ← pow_add]
  calc infinityRank = canonicalRank (2 ^ 52) 972 := by decide
    _ = roundedRank ((2 ^ 52 : ℕ) * 2 ^ (972 : ℤ)) :=
      (roundedRank_canonical (by decide) hcanonical).symm
    _ ≤ roundedRank v := roundedRank_mono (by positivity) (hpower.le.trans h)

/-- Below half of the least float a number is rounded to zero. -/
lemma roundedRank_eq_zero (hv : 0 < v) (h : v < 2 ^ (-1075 : ℤ)) : roundedRank v = 0 := by
  have hlog : Int.log 2 v < -1075 :=
    (Int.lt_zpow_iff_log_lt (by decide) hv).1 (by exact_mod_cast h)
  have hunit : unitExponent v = -1074 := by
    unfold unitExponent
    omega
  have hhalf : v / 2 ^ (-1074 : ℤ) < 1 / 2 := by
    rw [div_lt_iff₀ (by positivity)]
    calc v < 2 ^ (-1075 : ℤ) := h
      _ = 1 / 2 * 2 ^ (-1074 : ℤ) := by
        rw [one_div, ← zpow_neg_one, ← zpow_add₀ two_ne_zero]
        rfl
  have hfloor : ⌊v / 2 ^ (-1074 : ℤ)⌋₊ = 0 := Nat.floor_eq_zero.2 (by linarith)
  unfold roundedRank nearestEven
  rw [hunit, hfloor, if_pos (by simpa using hhalf)]
  rfl

end Rank

/-! ### Mantissas with residual bits -/

/-- A mantissa and its residual bits stand for `x`: they tell how many halves are in it, and whether
anything is left over. -/
structure Represents (em : ExtendedMantissa) (x : ℚ) : Prop where
  nonneg : 0 ≤ x
  halves : ⌊2 * x⌋₊ = 2 * em.mantissa + em.roundBit.toNat
  sticky : em.stickyBit = true ↔ (⌊2 * x⌋₊ : ℚ) ≠ 2 * x

namespace Represents

variable {em : ExtendedMantissa} {x : ℚ}

lemma floor (h : Represents em x) : ⌊x⌋₊ = em.mantissa := by
  have hhalf : ⌊2 * x / (2 : ℕ)⌋₊ = ⌊2 * x⌋₊ / 2 := Nat.floor_div_natCast _ _
  have hbit := em.roundBit.toNat_le
  rw [show 2 * x / (2 : ℕ) = x by push_cast; ring, h.halves] at hhalf
  omega

lemma shiftRightOne (h : Represents em x) : Represents em.shiftRightOne (x / 2) := by
  have hdouble : 2 * (x / 2) = x := by ring
  refine ⟨by linarith [h.nonneg], ?_, ?_⟩
  · rw [hdouble, h.floor]
    obtain hmod | hmod := Nat.mod_two_eq_zero_or_one em.mantissa <;>
      simp [ExtendedMantissa.shiftRightOne, hmod] <;> omega
  · rw [hdouble, h.floor]
    have hsticky := h.sticky
    rw [h.halves] at hsticky
    cases hround : em.roundBit with
    | false => simpa [ExtendedMantissa.shiftRightOne, hround] using hsticky
    | true =>
      -- An odd number of halves is no whole number.
      have hhalves := Nat.floor_le (show 0 ≤ 2 * x by linarith [h.nonneg])
      rw [h.halves, hround] at hhalves
      push_cast [Bool.toNat_true] at hhalves
      simp only [ExtendedMantissa.shiftRightOne, hround, Bool.true_or, true_iff]
      linarith

lemma shiftRight (h : Represents em x) (n : ℕ) : Represents (em >>> n) (x / 2 ^ n) := by
  induction n with
  | zero => simpa [HShiftRight.hShiftRight, Nat.repeat] using h
  | succ n ih =>
    rw [pow_succ, ← div_div]
    exact ih.shiftRightOne

/-- The residual bits are enough to find the nearest whole number. -/
lemma roundedMantissa (h : Represents em x) : em.roundedMantissa = nearestEven x := by
  have hfloor := h.floor
  have hhalves := h.halves
  have hsticky := h.sticky
  have hle := Nat.floor_le (show 0 ≤ 2 * x by linarith [h.nonneg])
  have hlt := Nat.lt_floor_add_one (2 * x)
  rw [hhalves] at hsticky hle hlt
  obtain ⟨m, round, sticky⟩ := em
  unfold nearestEven
  rw [hfloor]
  cases round <;> cases sticky <;> push_cast [Bool.toNat_true, Bool.toNat_false] at hsticky hle hlt
  · have hx : x = m := by simpa [eq_comm] using hsticky
    simp [ExtendedMantissa.roundedMantissa, ExtendedMantissa.accuracy, Accuracy.roundToNearestEven, hx]
  · rw [if_pos (by linarith)]
    rfl
  · have hx : x = m + 1 / 2 := by
      have : 2 * (m : ℚ) + 1 = 2 * x := by simpa using hsticky
      linarith
    rw [if_neg (by linarith), if_neg (by linarith)]
    rfl
  · have hx : 2 * (m : ℚ) + 1 ≠ 2 * x := by simpa using hsticky
    have hgt : 2 * (m : ℚ) + 1 < 2 * x := lt_of_le_of_ne hle hx
    rw [if_neg (by linarith), if_pos (by linarith)]
    rfl

lemma natCast (n : ℕ) : Represents (.ofMantissaAndAccuracy n .exact) n := by
  have hfloor : ⌊2 * (n : ℚ)⌋₊ = 2 * n := by exact_mod_cast Nat.floor_natCast (R := ℚ) (2 * n)
  refine ⟨by positivity, ?_, ?_⟩
  · rw [hfloor]
    rfl
  · rw [hfloor]
    simp [ExtendedMantissa.ofMantissaAndAccuracy]

/-- A quotient is `q + r / d`, with `b` halves in the fraction. -/
lemma of_halves {q r d : ℕ} (hd : 0 < d) {round sticky : Bool} (hle : round.toNat * d ≤ 2 * r)
    (hlt : 2 * r < (round.toNat + 1) * d) (hsticky : sticky = true ↔ round.toNat * d ≠ 2 * r) :
    Represents ⟨q, round, sticky⟩ ((d * q + r : ℕ) / d) := by
  have hpos : (0 : ℚ) < d := by exact_mod_cast hd
  have hdouble : 2 * ((d * q + r : ℕ) / d : ℚ) = (d * (2 * q) + 2 * r : ℕ) / d := by
    push_cast
    ring
  have hfloor : ⌊2 * ((d * q + r : ℕ) / d : ℚ)⌋₊ = 2 * q + round.toNat := by
    rw [hdouble, Nat.floor_div_eq_div, Nat.mul_add_div hd]
    congr 1
    exact Nat.div_eq_of_lt_le hle hlt
  refine ⟨by positivity, hfloor, ?_⟩
  rw [hfloor, hsticky, hdouble, ne_eq, ne_eq, eq_div_iff hpos.ne']
  norm_cast
  rw [Nat.add_mul, Nat.mul_comm (2 * q) d, Nat.add_left_cancel_iff]

lemma quotient {n d : ℕ} (hd : 0 < d) :
    Represents (.ofMantissaAndAccuracy (n / d) (accuracyOfFraction (n % d) d)) (n / d) := by
  have hrest := Nat.mod_lt n hd
  nth_rewrite 3 [← Nat.div_add_mod n d]
  unfold accuracyOfFraction
  by_cases hzero : n % d = 0
  · rw [if_pos hzero]
    exact of_halves hd (by simp) (by simp [hzero, hd]) (by simp [hzero])
  · rw [if_neg hzero]
    cases hcompare : compare (2 * (n % d)) d with
    | lt =>
      rw [Nat.compare_eq_lt] at hcompare
      exact of_halves hd (by simp) (by simpa using hcompare) (by simpa [eq_comm] using hzero)
    | eq =>
      rw [Nat.compare_eq_eq] at hcompare
      exact of_halves hd (by simp [hcompare]) (by simp [hcompare]; omega) (by simp [hcompare])
    | gt =>
      rw [Nat.compare_eq_gt] at hcompare
      exact of_halves hd (by simp; omega) (by simp; omega) (by simp; omega)

end Represents

/-! ### Packing -/

section Packing

/-- The rank of the float that a float in its parts is packed into. -/
def packedRank (u : UnpackedFloat) : ℕ := (UnpackedFloat.pack Format.binary64 u).toNat

lemma toNat_packComponents (e : BitVec 11) (m : BitVec 52) :
    (packComponents Format.binary64 .positive e m).toNat = e.toNat * 2 ^ 52 + m.toNat := by
  have hm := m.isLt
  have he := e.isLt
  unfold packComponents
  rw [BitVec.toNat_append, BitVec.toNat_append, ← Nat.shiftLeft_add_eq_or_of_lt m.isLt,
    ← Nat.shiftLeft_add_eq_or_of_lt e.isLt]
  simp [Nat.shiftLeft_eq, Sign.toBitVec]

/-- A negative float has the bits of the positive one and a sign. -/
lemma toNat_packComponents_negative (e : BitVec 11) (m : BitVec 52) :
    (packComponents Format.binary64 .negative e m).toNat =
      2 ^ 63 + (packComponents Format.binary64 .positive e m).toNat := by
  have hm := m.isLt
  have he := e.isLt
  rw [toNat_packComponents]
  unfold packComponents
  rw [BitVec.toNat_append, BitVec.toNat_append, ← Nat.shiftLeft_add_eq_or_of_lt m.isLt,
    ← Nat.shiftLeft_add_eq_or_of_lt e.isLt]
  simp [Nat.shiftLeft_eq, Sign.toBitVec]
  omega

lemma packedRank_negative {m : ℕ} {e : ℤ} (hm : 0 < m) :
    packedRank (.finite .negative m e hm) = 2 ^ 63 + packedRank (.finite .positive m e hm) := by
  unfold packedRank UnpackedFloat.pack
  dsimp only
  split_ifs
  · exact toNat_packComponents_negative _ _
  · exact toNat_packComponents_negative _ _
  · exact toNat_packComponents_negative _ _

@[simp] lemma packedRank_zero : packedRank (.zero .positive) = 0 := rfl

@[simp] lemma packedRank_infinity : packedRank (.infinity .positive) = infinityRank := rfl

lemma packedRank_finite {m : ℕ} {e : ℤ} (hm : 0 < m) (h : Canonical m e) :
    packedRank (.finite .positive m e hm) = min infinityRank (canonicalRank m e) := by
  have hlt := h.mantissa_lt
  have hleast := h.least_le
  have hbias : Format.binary64.exponentBias = 1023 := rfl
  have hlog : m.log2 + 1 = Format.binary64.mantissaBits ↔ 2 ^ 52 ≤ m := by
    have hlow := Nat.le_log2 hm.ne' (k := 52)
    have hhigh := Nat.log2_lt hm.ne' (k := 53)
    simp only [Format.mantissaBits]
    omega
  unfold packedRank UnpackedFloat.pack canonicalRank infinityRank
  simp only [hbias, hlog]
  by_cases hover : 971 < e
  · have hnormal : 2 ^ 52 ≤ m := h.normal.resolve_right (by omega)
    rw [if_pos (by omega), Nat.min_eq_left (by omega)]
    rfl
  · rw [if_neg (by omega)]
    by_cases hnormal : 2 ^ 52 ≤ m
    · rw [if_pos hnormal, toNat_packComponents, BitVec.toNat_ofNat, BitVec.toNat_ofNat]
      omega
    · have hunit : e = -1074 := h.normal.resolve_left hnormal
      rw [if_neg hnormal, toNat_packComponents, BitVec.toNat_ofNat, BitVec.toNat_ofNat]
      omega

end Packing

/-! ### Correct rounding -/

section Round

variable {m : ℕ} {e : ℤ} {a : Accuracy} {x : ℚ}

lemma mantissa_ofMantissaAndAccuracy (m : ℕ) (a : Accuracy) :
    (ExtendedMantissa.ofMantissaAndAccuracy m a).mantissa = m := by
  unfold ExtendedMantissa.ofMantissaAndAccuracy
  split <;> rfl

/-- The exponent to which a mantissa is shifted is that of the unit of rounding. -/
lemma targetExponent_eq (h : Represents (.ofMantissaAndAccuracy m a) x) (hx : 0 < x)
    (he : e ≤ unitExponent (x * 2 ^ e)) :
    Format.binary64.targetExponent (totalExponent m e) = unitExponent (x * 2 ^ e) := by
  have hfloor : ⌊x⌋₊ = m := h.floor.trans (mantissa_ofMantissaAndAccuracy m a)
  have htarget : Format.binary64.targetExponent (totalExponent m e) =
      max (Nat.log 2 m + e - 52) (-1074) := by
    simp only [Format.targetExponent, totalExponent, Format.mantissaBits, Format.minExponent,
      Nat.log2_eq_log_two]
    omega
  have hunit : unitExponent (x * 2 ^ e) = max (Int.log 2 x + e - 52) (-1074) := by
    rw [unitExponent, log_mul_zpow hx]
  rw [htarget]
  rw [hunit] at he ⊢
  obtain hlt | hge := lt_or_ge x 1
  · -- Less than one unit is left: the number lies below the least float's unit.
    have hneg : Int.log 2 x < 0 := by
      rw [← Int.lt_zpow_iff_log_lt (by decide) hx]
      simpa using hlt
    have hzero : m = 0 := by rw [← hfloor, Nat.floor_eq_zero.2 hlt]
    rw [hzero, Nat.log_zero_right]
    omega
  · rw [Int.log_of_one_le_right 2 hge, hfloor]

lemma shiftToExponent_represents (h : Represents (.ofMantissaAndAccuracy m a) x) {t : ℤ}
    (ht : e ≤ t) :
    Represents (shiftToExponent m e a t).1 (x * 2 ^ e / 2 ^ t) ∧ (shiftToExponent m e a t).2 = t := by
  constructor
  · have hscale : x * 2 ^ e / 2 ^ t = x / 2 ^ (t - e).toNat := by
      rw [mul_div_assoc, ← zpow_sub₀ two_ne_zero, ← zpow_natCast, Int.toNat_of_nonneg (by omega),
        div_eq_mul_inv, ← zpow_neg, neg_sub]
    rw [hscale]
    exact h.shiftRight _
  · simp only [shiftToExponent]
    omega

/-- A mantissa that fits is not shifted again. -/
lemma shiftToTargetExponent_of_lt (hm : m < 2 ^ 53) (he : -1074 ≤ e) :
    shiftToTargetExponent Format.binary64 m e .exact = (⟨m, false, false⟩, e) := by
  have hlog : m.log2 < 53 := by
    by_cases hzero : m = 0
    · simp [hzero]
    · exact (Nat.log2_lt hzero).2 hm
  have hshift : (Format.binary64.targetExponent (totalExponent m e) - e).toNat = 0 := by
    simp only [Format.targetExponent, totalExponent, Format.mantissaBits, Format.minExponent]
    omega
  simp only [shiftToTargetExponent, shiftToExponent, hshift]
  simp [HShiftRight.hShiftRight, Nat.repeat, ExtendedMantissa.ofMantissaAndAccuracy]

/-- A carry out of the mantissa raises the exponent. -/
lemma shiftToTargetExponent_carry (he : -1074 ≤ e) :
    shiftToTargetExponent Format.binary64 (2 ^ 53) e .exact = (⟨2 ^ 52, false, false⟩, e + 1) := by
  have hshift : (Format.binary64.targetExponent (totalExponent (2 ^ 53) e) - e).toNat = 1 := by
    simp only [Format.targetExponent, totalExponent, Format.mantissaBits, Format.minExponent,
      Nat.log2_two_pow]
    omega
  simp only [shiftToTargetExponent, shiftToExponent, hshift]
  rfl

/-- A number of which enough bits are known is rounded to the nearest float. -/
theorem packedRank_roundWithAccuracy (h : Represents (.ofMantissaAndAccuracy m a) x) (hx : 0 < x)
    (he : e ≤ unitExponent (x * 2 ^ e)) :
    packedRank (roundWithAccuracy Format.binary64 .positive m e a) =
      min infinityRank (roundedRank (x * 2 ^ e)) := by
  obtain ⟨hrep, hexp⟩ := shiftToExponent_represents h he
  have hrounded := hrep.roundedMantissa
  have hleast := unitExponent_ge (x * 2 ^ e)
  have hle := nearestEven_unit_le (x * 2 ^ e)
  have hge := le_nearestEven_unit (v := x * 2 ^ e) (by positivity)
  have hrank : roundedRank (x * 2 ^ e) =
      canonicalRank (nearestEven (x * 2 ^ e / 2 ^ unitExponent (x * 2 ^ e)))
        (unitExponent (x * 2 ^ e)) := rfl
  rw [hrank]
  have hfirst : shiftToTargetExponent Format.binary64 m e a =
      shiftToExponent m e a (unitExponent (x * 2 ^ e)) := by
    rw [shiftToTargetExponent, targetExponent_eq h hx he]
  simp only [roundWithAccuracy, hfirst, hrounded, hexp]
  generalize unitExponent (x * 2 ^ e) = u at *
  generalize nearestEven (x * 2 ^ e / 2 ^ u) = n at *
  obtain hlt | rfl := hle.lt_or_eq
  · simp only [shiftToTargetExponent_of_lt hlt hleast]
    have hnormal : 2 ^ 52 ≤ n ∨ u = -1074 := by
      by_cases hu : -1074 < u
      · exact .inl (hge hu)
      · exact .inr (by omega)
    by_cases hzero : n = 0
    · subst hzero
      have hu : u = -1074 := hnormal.resolve_left (by decide)
      simp [hu, canonicalRank]
    · simp only [hzero, dite_false]
      exact packedRank_finite _ ⟨hlt, hleast, hnormal⟩
  · simp only [shiftToTargetExponent_carry hleast]
    have hcarry : canonicalRank (2 ^ 53) u = canonicalRank (2 ^ 52) (u + 1) := by
      unfold canonicalRank
      omega
    rw [hcarry]
    exact packedRank_finite (by decide) ⟨by decide, by omega, .inl le_rfl⟩

end Round

/-! ### Floats by rank -/

section Floats

/-- The place of a float among those of no negative value. -/
def rank (x : Float) : ℕ := x.toBits.toNat

/-- The value of a finite float without its sign. -/
def magnitude (x : Float) : ℚ :=
  match BinaryFraction.ofFloat? x with
  | some exact => exact.mantissa * 2 ^ exact.exponent
  | none => 0

lemma toNat_unpackMantissa (b : BitVec 64) :
    (@unpackMantissa Format.binary64 b).toNat = b.toNat % 2 ^ 52 := by
  simp [unpackMantissa]

lemma toNat_unpackExponent (b : BitVec 64) :
    (@unpackExponent Format.binary64 b).toNat = b.toNat / 2 ^ 52 % 2 ^ 11 := by
  simp [unpackExponent, Nat.shiftRight_eq_div_pow]

lemma unpackSign_eq_zero {b : BitVec 64} (h : b.toNat < 2 ^ 63) :
    @unpackSign Format.binary64 b = 0#1 := by
  apply BitVec.eq_of_toNat_eq
  simp [unpackSign, Nat.shiftRight_eq_div_pow]
  omega

variable {x y : Float}

lemma unpack_subnormal {b : BitVec 64} (h : b.toNat < 2 ^ 52) (hpos : 0 < b.toNat) :
    UnpackedFloat.unpack Format.binary64 b = .finite .positive b.toNat (-1074) hpos := by
  have hsign := unpackSign_eq_zero (b := b) (by omega)
  have hexponent : @unpackExponent Format.binary64 b = 0#11 := by
    apply BitVec.eq_of_toNat_eq
    rw [toNat_unpackExponent, Nat.div_eq_of_lt h]
    rfl
  have hmantissa : (@unpackMantissa Format.binary64 b).toNat = b.toNat := by
    rw [toNat_unpackMantissa, Nat.mod_eq_of_lt h]
  have hnonzero : @unpackMantissa Format.binary64 b ≠ 0#52 := by
    intro hzero
    rw [hzero] at hmantissa
    simp at hmantissa
    omega
  unfold UnpackedFloat.unpack
  simp only [hsign, hexponent, hnonzero, hmantissa]
  rfl

lemma unpack_normal {b : BitVec 64} {field : ℕ} (hfield : b.toNat / 2 ^ 52 = field)
    (hlow : 0 < field) (hhigh : field < 2047) (hpos : 0 < b.toNat % 2 ^ 52 + 2 ^ 52) :
    UnpackedFloat.unpack Format.binary64 b =
      .finite .positive (b.toNat % 2 ^ 52 + 2 ^ 52) (field - 1075) hpos := by
  have hsign := unpackSign_eq_zero (b := b) (by omega)
  have hexponent : (@unpackExponent Format.binary64 b).toNat = field := by
    rw [toNat_unpackExponent, hfield, Nat.mod_eq_of_lt (by omega)]
  have hfinite : @unpackExponent Format.binary64 b ≠ -1#11 := by
    intro h
    rw [h] at hexponent
    simp at hexponent
    omega
  have hnonzero : @unpackExponent Format.binary64 b ≠ 0#11 := by
    intro h
    rw [h] at hexponent
    simp at hexponent
    omega
  have hmantissa : ((1#1 : BitVec 1) ++ @unpackMantissa Format.binary64 b).toNat =
      b.toNat % 2 ^ 52 + 2 ^ 52 := by
    rw [BitVec.toNat_append, ← Nat.shiftLeft_add_eq_or_of_lt (BitVec.isLt _), toNat_unpackMantissa]
    simp [Nat.shiftLeft_eq]
    omega
  unfold UnpackedFloat.unpack
  simp only [hsign, hexponent, hfinite, hnonzero, hmantissa]
  rfl

lemma exists_canonical (h : rank x < infinityRank) :
    ∃ m e, Canonical m e ∧ rank x = canonicalRank m e ∧
      BinaryFraction.ofFloat? x = some ⟨false, m, e⟩ ∧
      ∀ hm : 0 < m, x.toModel.unpack = .finite .positive m e hm := by
  have hbits : x.toBits.toNat = rank x := rfl
  unfold infinityRank at h
  by_cases hlow : rank x < 2 ^ 52
  · have hfield : rank x / 4503599627370496 = 0 := by omega
    refine ⟨rank x, -1074, ⟨by omega, le_rfl, .inr rfl⟩, by simp [canonicalRank], ?_, ?_⟩
    · simp only [BinaryFraction.ofFloat?, BinaryFraction.hiddenBit, hbits, hfield]
      simp [BinaryFraction.leastExponent]
      omega
    · intro hm
      exact unpack_subnormal hlow hm
  · refine ⟨rank x % 2 ^ 52 + 2 ^ 52, (rank x / 2 ^ 52 : ℕ) - 1075,
      ⟨by omega, by omega, .inl (by omega)⟩, by unfold canonicalRank; omega, ?_, ?_⟩
    · simp only [BinaryFraction.ofFloat?, BinaryFraction.hiddenBit, hbits]
      rw [if_neg (by omega), if_neg (by omega)]
      simp [BinaryFraction.leastExponent]
      omega
    · intro hm
      have hvec : x.toBits.toBitVec.toNat = rank x := rfl
      exact unpack_normal rfl (by omega) (by omega) hm

/-- A positive finite float in its parts. -/
lemma exists_parts (hpos : 0 < rank x) (hfinite : rank x < infinityRank) :
    ∃ m e, ∃ hm : 0 < m, Canonical m e ∧ rank x = canonicalRank m e ∧
      magnitude x = m * 2 ^ e ∧ x.toModel.unpack = .finite .positive m e hm := by
  obtain ⟨m, e, hcanonical, hrank, hexact, hunpack⟩ := exists_canonical hfinite
  have hm : 0 < m := by
    by_contra hzero
    have hleast := hcanonical.normal
    unfold canonicalRank at hrank
    omega
  refine ⟨m, e, hm, hcanonical, hrank, ?_, hunpack hm⟩
  rw [magnitude, hexact]

lemma magnitude_pos (hpos : 0 < rank x) (hfinite : rank x < infinityRank) : 0 < magnitude x := by
  obtain ⟨m, e, hm, -, -, hmagnitude, -⟩ := exists_parts hpos hfinite
  rw [hmagnitude]
  positivity

lemma roundedRank_magnitude (hpos : 0 < rank x) (hfinite : rank x < infinityRank) :
    roundedRank (magnitude x) = rank x := by
  obtain ⟨m, e, hm, hcanonical, hrank, hmagnitude, -⟩ := exists_parts hpos hfinite
  rw [hmagnitude, hrank, roundedRank_canonical hm hcanonical]

lemma roundedRank_le {v : ℚ} (hpos : 0 < rank x) (hfinite : rank x < infinityRank) (hv : 0 < v)
    (h : v ≤ magnitude x) : roundedRank v ≤ rank x :=
  (roundedRank_mono hv h).trans (roundedRank_magnitude hpos hfinite).le

lemma le_roundedRank {v : ℚ} (hpos : 0 < rank x) (hfinite : rank x < infinityRank)
    (h : magnitude x ≤ v) : rank x ≤ roundedRank v :=
  (roundedRank_magnitude hpos hfinite).symm.le.trans
    (roundedRank_mono (magnitude_pos hpos hfinite) h)

lemma le_unitExponent_mul {m₁ m₂ : ℕ} {e₁ e₂ : ℤ} (hm₁ : 0 < m₁) (hm₂ : 0 < m₂)
    (h₁ : Canonical m₁ e₁) (h₂ : Canonical m₂ e₂) :
    e₁ + e₂ ≤ unitExponent ((m₁ * m₂ : ℕ) * 2 ^ (e₁ + e₂)) := by
  rw [unitExponent, log_mul_zpow (by positivity), Int.log_natCast]
  have hlog {n k : ℕ} (hk : 0 < k) (hn : 2 ^ 52 ≤ n) : 52 ≤ Nat.log 2 (n * k) :=
    Nat.le_log_of_pow_le (by decide) (hn.trans (Nat.le_mul_of_pos_right n hk))
  obtain hnormal | hleast₁ := h₁.normal
  · have := hlog hm₂ hnormal
    omega
  · obtain hnormal | hleast₂ := h₂.normal
    · have := hlog hm₁ hnormal
      rw [Nat.mul_comm] at this
      omega
    · omega

/-- A product of parts is rounded once its last place is fine enough. -/
lemma packedRank_mul {m₁ m₂ : ℕ} {e₁ e₂ : ℤ} (hm₁ : 0 < m₁) (hm₂ : 0 < m₂)
    (h : e₁ + e₂ ≤ unitExponent ((m₁ * m₂ : ℕ) * 2 ^ (e₁ + e₂))) :
    packedRank (UnpackedFloat.mul Format.binary64 (.finite .positive m₁ e₁ hm₁)
      (.finite .positive m₂ e₂ hm₂)) =
      min infinityRank (roundedRank ((m₁ * 2 ^ e₁) * (m₂ * 2 ^ e₂))) := by
  have hvalue : ((m₁ : ℚ) * 2 ^ e₁) * (m₂ * 2 ^ e₂) = (m₁ * m₂ : ℕ) * 2 ^ (e₁ + e₂) := by
    rw [zpow_add₀ two_ne_zero]
    push_cast
    ring
  rw [hvalue]
  exact packedRank_roundWithAccuracy (.natCast _) (by positivity) h

/-- A product is rounded to the nearest float. -/
theorem rank_mul (hx : 0 < rank x) (hx' : rank x < infinityRank) (hy : 0 < rank y)
    (hy' : rank y < infinityRank) :
    rank (x * y) = min infinityRank (roundedRank (magnitude x * magnitude y)) := by
  obtain ⟨m₁, e₁, hm₁, hcanonical₁, -, hmagnitude₁, hunpack₁⟩ := exists_parts hx hx'
  obtain ⟨m₂, e₂, hm₂, hcanonical₂, -, hmagnitude₂, hunpack₂⟩ := exists_parts hy hy'
  have hunit := le_unitExponent_mul hm₁ hm₂ hcanonical₁ hcanonical₂
  have hrank : rank (x * y) = packedRank
      (UnpackedFloat.mul Format.binary64 x.toModel.unpack y.toModel.unpack) := rfl
  rw [hrank, hunpack₁, hunpack₂, packedRank_mul hm₁ hm₂ hunit, hmagnitude₁, hmagnitude₂]

lemma le_log_div {m₁ m₂ : ℕ} (hm₁ : 0 < m₁) (hm₂ : 0 < m₂) (e₁ e₂ : ℤ) :
    Nat.log 2 m₁ + e₁ - (Nat.log 2 m₂ + e₂) - 1 ≤
      Int.log 2 ((m₁ * 2 ^ e₁ : ℚ) / (m₂ * 2 ^ e₂)) := by
  have hlow : (2 : ℚ) ^ Nat.log 2 m₁ ≤ m₁ := by exact_mod_cast Nat.pow_log_le_self 2 hm₁.ne'
  have hhigh : (m₂ : ℚ) ≤ 2 ^ (Nat.log 2 m₂ + 1) := by
    exact_mod_cast (Nat.lt_pow_succ_log_self (by decide) m₂).le
  rw [← Int.zpow_le_iff_le_log (by decide) (by positivity), le_div_iff₀ (by positivity)]
  push_cast
  calc (2 : ℚ) ^ (Nat.log 2 m₁ + e₁ - (Nat.log 2 m₂ + e₂) - 1) * (m₂ * 2 ^ e₂)
      ≤ 2 ^ (Nat.log 2 m₁ + e₁ - (Nat.log 2 m₂ + e₂) - 1) * (2 ^ (Nat.log 2 m₂ + 1) * 2 ^ e₂) := by
        gcongr
    _ = 2 ^ Nat.log 2 m₁ * 2 ^ e₁ := by
      simp only [← zpow_natCast, ← zpow_add₀ (two_ne_zero : (2 : ℚ) ≠ 0)]
      congr 1
      push_cast
      ring
    _ ≤ m₁ * 2 ^ e₁ := by gcongr

/-- A quotient of parts is rounded, whatever the parts. -/
lemma packedRank_div {m₁ m₂ : ℕ} (hm₁ : 0 < m₁) (hm₂ : 0 < m₂) (e₁ e₂ : ℤ) :
    packedRank (UnpackedFloat.div Format.binary64 (.finite .positive m₁ e₁ hm₁)
      (.finite .positive m₂ e₂ hm₂)) =
      min infinityRank (roundedRank ((m₁ * 2 ^ e₁) / (m₂ * 2 ^ e₂))) := by
  -- The exponent to which the dividend is brought, so that the quotient has bits enough.
  obtain ⟨t, ht⟩ : ∃ t, t = min (e₁ - e₂) (Format.binary64.targetExponent
    (totalExponent m₁ e₁ - totalExponent m₂ e₂)) := ⟨_, rfl⟩
  have hvalue : ((m₁ : ℚ) * 2 ^ e₁) / (m₂ * 2 ^ e₂) =
      ((m₁ <<< (e₁ - e₂ - t).toNat : ℕ) / m₂ : ℚ) * 2 ^ t := by
    have hshift : (2 : ℚ) ^ (e₁ - e₂ - t).toNat = 2 ^ e₁ / 2 ^ e₂ / 2 ^ t := by
      rw [← zpow_natCast, Int.toNat_of_nonneg (by omega), zpow_sub₀ two_ne_zero,
        zpow_sub₀ two_ne_zero]
    rw [Nat.shiftLeft_eq]
    push_cast
    rw [hshift]
    field_simp
  have hunit : t ≤ unitExponent (((m₁ : ℚ) * 2 ^ e₁) / (m₂ * 2 ^ e₂)) := by
    have hlog := le_log_div hm₁ hm₂ e₁ e₂
    rw [unitExponent]
    simp only [Format.targetExponent, totalExponent, Format.mantissaBits, Format.minExponent,
      Nat.log2_eq_log_two] at ht
    omega
  have hpos : 0 < ((m₁ : ℚ) * 2 ^ e₁) / (m₂ * 2 ^ e₂) := by positivity
  rw [hvalue] at hunit hpos ⊢
  simp only [UnpackedFloat.div, divCore, ← ht]
  exact packedRank_roundWithAccuracy (.quotient hm₂) (pos_of_mul_pos_left hpos (by positivity)) hunit

/-- A quotient is rounded to the nearest float. -/
theorem rank_div (hx : 0 < rank x) (hx' : rank x < infinityRank) (hy : 0 < rank y)
    (hy' : rank y < infinityRank) :
    rank (x / y) = min infinityRank (roundedRank (magnitude x / magnitude y)) := by
  obtain ⟨m₁, e₁, hm₁, -, -, hmagnitude₁, hunpack₁⟩ := exists_parts hx hx'
  obtain ⟨m₂, e₂, hm₂, -, -, hmagnitude₂, hunpack₂⟩ := exists_parts hy hy'
  have hrank : rank (x / y) = packedRank
      (UnpackedFloat.div Format.binary64 x.toModel.unpack y.toModel.unpack) := rfl
  rw [hrank, hunpack₁, hunpack₂, packedRank_div hm₁ hm₂, hmagnitude₁, hmagnitude₂]

/-! ### The order of floats -/

lemma canonicalRank_inj {m m' : ℕ} {e e' : ℤ} (h : Canonical m e) (h' : Canonical m' e')
    (hrank : canonicalRank m e = canonicalRank m' e') : m = m' ∧ e = e' := by
  obtain ⟨hlt, hleast, hnormal⟩ := h
  obtain ⟨hlt', hleast', hnormal'⟩ := h'
  unfold canonicalRank at hrank
  omega

lemma canonicalRank_lt_iff {m m' : ℕ} {e e' : ℤ} (h : Canonical m e) (h' : Canonical m' e') :
    canonicalRank m e < canonicalRank m' e' ↔ e < e' ∨ e = e' ∧ m < m' := by
  obtain ⟨hlt, hleast, hnormal⟩ := h
  obtain ⟨hlt', hleast', hnormal'⟩ := h'
  unfold canonicalRank
  omega

lemma magnitude_of_rank {m : ℕ} {e : ℤ} (h : Canonical m e) (hrank : rank x = canonicalRank m e)
    (hfinite : rank x < infinityRank) : magnitude x = m * 2 ^ e := by
  obtain ⟨m', e', hcanonical, hrank', hexact, -⟩ := exists_canonical hfinite
  obtain ⟨rfl, rfl⟩ := canonicalRank_inj h hcanonical (hrank.symm.trans hrank')
  rw [magnitude, hexact]

lemma magnitude_zero (h : rank x = 0) : magnitude x = 0 := by
  rw [magnitude_of_rank (m := 0) (e := -1074) ⟨by decide, by decide, .inr rfl⟩ (h.trans (by decide))
    (by rw [h]; decide)]
  norm_num

lemma magnitude_one : 0 < rank 1.0 ∧ rank 1.0 < infinityRank ∧ magnitude 1.0 = 1 := by
  refine ⟨by decide +kernel, by decide +kernel, ?_⟩
  rw [magnitude_of_rank (m := 2 ^ 52) (e := -52) ⟨by decide, by decide, .inl le_rfl⟩
    (by decide +kernel) (by decide +kernel)]
  norm_num

lemma compare_canonical {m₁ m₂ : ℕ} {e₁ e₂ : ℤ} (h₁ : Canonical m₁ e₁) (h₂ : Canonical m₂ e₂) :
    (compare e₁ e₂).then (compare m₁ m₂) = compare (canonicalRank m₁ e₁) (canonicalRank m₂ e₂) := by
  have hlt := canonicalRank_lt_iff h₁ h₂
  have hgt := canonicalRank_lt_iff h₂ h₁
  obtain h | h | h := lt_trichotomy (canonicalRank m₁ e₁) (canonicalRank m₂ e₂)
  · rw [compare_lt_iff_lt.2 h, Ordering.then_eq_lt, compare_lt_iff_lt, compare_lt_iff_lt,
      compare_eq_iff_eq]
    exact hlt.1 h
  · obtain ⟨rfl, rfl⟩ := canonicalRank_inj h₁ h₂ h
    simp
  · rw [compare_gt_iff_gt.2 h, Ordering.then_eq_gt, compare_gt_iff_gt, compare_gt_iff_gt,
      compare_eq_iff_eq, eq_comm]
    exact hgt.1 h

/-- Positive floats are ordered by rank. -/
lemma compare_unpack (hx : 0 < rank x) (hx' : rank x < infinityRank) (hy : 0 < rank y)
    (hy' : rank y < infinityRank) :
    x.toModel.unpack.compare y.toModel.unpack = some (compare (rank x) (rank y)) := by
  obtain ⟨m₁, e₁, hm₁, hcanonical₁, hrank₁, -, hunpack₁⟩ := exists_parts hx hx'
  obtain ⟨m₂, e₂, hm₂, hcanonical₂, hrank₂, -, hunpack₂⟩ := exists_parts hy hy'
  rw [hunpack₁, hunpack₂, hrank₁, hrank₂, ← compare_canonical hcanonical₁ hcanonical₂]
  rfl

lemma le_iff_unpack (x y : Float) : x ≤ y ↔ x.toModel.unpack.le y.toModel.unpack = true := by
  change decide (x.toModel ≤ y.toModel) = true ↔ _
  rw [decide_eq_true_iff]
  rfl

lemma lt_iff_unpack (x y : Float) : x < y ↔ x.toModel.unpack.lt y.toModel.unpack = true := by
  change decide (x.toModel < y.toModel) = true ↔ _
  rw [decide_eq_true_iff]
  rfl

/-- An undefined number has no place in the order. -/
lemma isNaN_of_compare {order : Ordering}
    (h : x.toModel.unpack.compare y.toModel.unpack = some order) :
    x.isNaN = false ∧ y.isNaN = false := by
  change x.toModel.unpack.isNaN = false ∧ y.toModel.unpack.isNaN = false
  cases hx : x.toModel.unpack <;> cases hy : y.toModel.unpack <;> rw [hx, hy] at h <;>
    first | exact ⟨rfl, rfl⟩ | cases h

lemma isNaN_of_lt (h : x < y) : x.isNaN = false ∧ y.isNaN = false := by
  rw [lt_iff_unpack] at h
  exact isNaN_of_compare (eq_of_beq h)

lemma isNaN_of_le (h : x ≤ y) : x.isNaN = false ∧ y.isNaN = false := by
  rw [le_iff_unpack] at h
  obtain ⟨order, horder, -⟩ := (Option.any_eq_true _ _).1 h
  exact isNaN_of_compare horder

lemma isNaN_of_isFinite (h : x.isFinite = true) : x.isNaN = false := by
  change x.toModel.unpack.isFinite = true at h
  change x.toModel.unpack.isNaN = false
  cases hx : x.toModel.unpack with
  | notANumber =>
    rw [hx] at h
    cases h
  | infinity | zero | finite => rfl

lemma unpack_zero : (0.0 : Float).toModel.unpack = .zero .positive := by rfl

lemma le_iff_rank_le (hx : 0 < rank x) (hx' : rank x < infinityRank) (hy : 0 < rank y)
    (hy' : rank y < infinityRank) : x ≤ y ↔ rank x ≤ rank y := by
  rw [le_iff_unpack, UnpackedFloat.le, compare_unpack hx hx' hy hy', Option.any_some]
  exact Nat.isLE_compare

/-- The order of ranks is that of values. -/
lemma magnitude_le (hx : 0 < rank x) (hy' : rank y < infinityRank) (h : rank x ≤ rank y) :
    magnitude x ≤ magnitude y := by
  by_contra! hlt
  have hy : 0 < rank y := hx.trans_le h
  have hx' : rank x < infinityRank := h.trans_lt hy'
  have hround : rank y ≤ rank x :=
    (le_roundedRank hy hy' hlt.le).trans (roundedRank_magnitude hx hx').le
  obtain ⟨m₁, e₁, -, hcanonical₁, hrank₁, -, -⟩ := exists_parts hx hx'
  have hsame : magnitude y = m₁ * 2 ^ e₁ :=
    magnitude_of_rank hcanonical₁ ((le_antisymm h hround).symm.trans hrank₁) hy'
  rw [hsame, magnitude_of_rank hcanonical₁ hrank₁ hx'] at hlt
  exact lt_irrefl _ hlt

lemma unpackSign_eq_one {b : BitVec 64} (h : 2 ^ 63 ≤ b.toNat) :
    @unpackSign Format.binary64 b = 1#1 := by
  have hlt := b.isLt
  apply BitVec.eq_of_toNat_eq
  simp [unpackSign, Nat.shiftRight_eq_div_pow]
  omega

/-- What is not finite, and what is at most zero, lies at the ends of the ranks. -/
lemma unpack_of_not_positive {b : BitVec 64} (h : b.toNat = 0 ∨ infinityRank ≤ b.toNat) :
    (UnpackedFloat.unpack Format.binary64 b).isFinite = false ∨
      (UnpackedFloat.unpack Format.binary64 b).le (.zero .positive) = true := by
  unfold infinityRank at h
  by_cases hnegative : 2 ^ 63 ≤ b.toNat
  · unfold UnpackedFloat.unpack
    simp only [unpackSign_eq_one hnegative]
    split_ifs
    · exact .inl rfl
    · exact .inl rfl
    · exact .inr rfl
    · exact .inr rfl
    · exact .inr rfl
  · have hexponent := toNat_unpackExponent b
    obtain hzero | hinfinite := h
    · obtain rfl : b = 0#64 := BitVec.eq_of_toNat_eq hzero
      exact .inr rfl
    · have hones : @unpackExponent Format.binary64 b = -1#11 := by
        apply BitVec.eq_of_toNat_eq
        rw [hexponent]
        simp
        omega
      unfold UnpackedFloat.unpack
      simp only [hones, if_true]
      split_ifs
      · exact .inl rfl
      · exact .inl rfl

/-- A finite float that is not at most zero is a positive one. -/
lemma rank_of_positive (hfinite : x.isFinite = true) (hpos : ¬x ≤ 0.0) :
    0 < rank x ∧ rank x < infinityRank := by
  rw [le_iff_unpack, unpack_zero] at hpos
  by_contra hrank
  obtain hinfinite | hle := unpack_of_not_positive (b := x.toModel.toBits.toBitVec)
    (show rank x = 0 ∨ infinityRank ≤ rank x by omega)
  · exact absurd (hinfinite.symm.trans hfinite) (by decide)
  · exact hpos hle

lemma isFinite_of_rank (h : rank x < infinityRank) : x.isFinite = true := by
  have hmodel : x.isFinite = x.toModel.unpack.isFinite := rfl
  rw [hmodel]
  obtain hzero | hpos := Nat.eq_zero_or_pos (rank x)
  · have hbits : x.toModel.toBits.toBitVec = 0#64 := BitVec.eq_of_toNat_eq hzero
    rw [Float.Model.unpack, hbits]
    decide
  · obtain ⟨m, e, hm, -, -, -, hunpack⟩ := exists_parts hpos h
    rw [hunpack]
    rfl

lemma not_lt_zero (h : rank x ≤ infinityRank) : ¬x < 0.0 := by
  rw [lt_iff_unpack, unpack_zero]
  obtain hfinite | hinfinite := h.lt_or_eq
  · obtain hzero | hpos := Nat.eq_zero_or_pos (rank x)
    · have hbits : x.toModel.toBits.toBitVec = 0#64 := BitVec.eq_of_toNat_eq hzero
      rw [Float.Model.unpack, hbits]
      decide
    · obtain ⟨m, e, hm, -, -, -, hunpack⟩ := exists_parts hpos hfinite
      rw [hunpack]
      simp [UnpackedFloat.lt, UnpackedFloat.compare]
  · have hbits : x.toModel.toBits.toBitVec = BitVec.ofNat 64 infinityRank :=
      BitVec.eq_of_toNat_eq hinfinite
    rw [Float.Model.unpack, hbits]
    decide

/-! ### Whole numbers -/

lemma exists_canonical_natCast {n : ℕ} (hpos : 0 < n) (hlt : n < 2 ^ 53) :
    ∃ m e, 0 < m ∧ Canonical m e ∧ canonicalRank m e < infinityRank ∧ (n : ℚ) = m * 2 ^ e := by
  have hlog : Nat.log 2 n < 53 := Nat.log_lt_of_lt_pow hpos.ne' hlt
  have hsplit : 52 - Nat.log 2 n + Nat.log 2 n = 52 := by omega
  have hlow : 2 ^ 52 ≤ n * 2 ^ (52 - Nat.log 2 n) := by
    calc 2 ^ 52 = 2 ^ Nat.log 2 n * 2 ^ (52 - Nat.log 2 n) := by rw [← Nat.pow_add, Nat.add_comm, hsplit]
      _ ≤ n * 2 ^ (52 - Nat.log 2 n) := Nat.mul_le_mul_right _ (Nat.pow_log_le_self 2 hpos.ne')
  have hhigh : n * 2 ^ (52 - Nat.log 2 n) < 2 ^ 53 := by
    calc n * 2 ^ (52 - Nat.log 2 n) < 2 ^ (Nat.log 2 n + 1) * 2 ^ (52 - Nat.log 2 n) :=
          Nat.mul_lt_mul_of_pos_right (Nat.lt_pow_succ_log_self (by decide) n) (by positivity)
      _ = 2 ^ 53 := by
        rw [← Nat.pow_add]
        congr 1
        omega
  refine ⟨n * 2 ^ (52 - Nat.log 2 n), Nat.log 2 n - 52, by omega, ⟨hhigh, by omega, .inl hlow⟩, ?_, ?_⟩
  · unfold canonicalRank infinityRank
    omega
  · push_cast
    rw [mul_assoc, ← zpow_natCast, ← zpow_add₀ two_ne_zero, Nat.cast_sub (by omega)]
    simp

/-- A number that is given exactly is rounded, whatever its mantissa and exponent. -/
lemma packedRank_round {k : ℕ} (hpos : 0 < k) (e : ℤ) :
    packedRank (UnpackedFloat.round Format.binary64 .positive k e) =
      min infinityRank (roundedRank (k * 2 ^ e)) := by
  obtain ⟨t, ht⟩ : ∃ t, t = Format.binary64.targetExponent (totalExponent k e) := ⟨_, rfl⟩
  have hround : UnpackedFloat.round Format.binary64 .positive k e =
      roundWithAccuracy Format.binary64 .positive (k <<< (e - t).toNat) (e - (e - t).toNat)
        .exact := by
    simp only [UnpackedFloat.round, decreaseExponent, ht]
  have hvalue : (k : ℚ) * 2 ^ e = (k <<< (e - t).toNat : ℕ) * 2 ^ (e - ((e - t).toNat : ℤ)) := by
    rw [Nat.shiftLeft_eq]
    push_cast
    rw [mul_assoc, ← zpow_natCast, ← zpow_add₀ two_ne_zero]
    congr 2
    ring
  have hunit : t = unitExponent (k * 2 ^ e) := by
    rw [ht, unitExponent, log_mul_zpow (by positivity), Int.log_natCast]
    simp only [Format.targetExponent, totalExponent, Format.mantissaBits, Format.minExponent,
      Nat.log2_eq_log_two]
    omega
  rw [hround, hvalue]
  refine packedRank_roundWithAccuracy (.natCast _) ?_ ?_
  · rw [Nat.shiftLeft_eq]
    positivity
  · rw [← hvalue, ← hunit]
    omega

lemma rank_toFloat {n : UInt64} (hpos : 0 < n.toNat) :
    rank n.toFloat = min infinityRank (roundedRank n.toNat) := by
  have hrank : rank n.toFloat = packedRank (UnpackedFloat.ofNat Format.binary64 n.toNat) := rfl
  have hround : UnpackedFloat.ofNat Format.binary64 n.toNat =
      UnpackedFloat.round Format.binary64 .positive n.toNat 0 := by
    have hgt : compare (n.toNat : ℤ) 0 = .gt := compare_gt_iff_gt.2 (by exact_mod_cast hpos)
    simp only [UnpackedFloat.ofNat, UnpackedFloat.ofInt, UnpackedFloat.normalize, hgt,
      Int.toNat_natCast]
  rw [hrank, hround, packedRank_round hpos, zpow_zero, mul_one]

/-- A whole number of at most 53 bits is a float. -/
lemma magnitude_toFloat {n : ℕ} (hpos : 0 < n) (hlt : n < 2 ^ 53) :
    0 < rank n.toUInt64.toFloat ∧ rank n.toUInt64.toFloat < infinityRank ∧
      magnitude n.toUInt64.toFloat = n := by
  obtain ⟨m, e, hm, hcanonical, hfinite, hvalue⟩ := exists_canonical_natCast hpos hlt
  have hrank : roundedRank n = canonicalRank m e := by rw [hvalue, roundedRank_canonical hm hcanonical]
  have hrankpos : 0 < canonicalRank m e := by
    unfold canonicalRank
    omega
  have hconverted : rank n.toUInt64.toFloat = canonicalRank m e := by
    have hword : n.toUInt64.toNat = n := Nat.mod_eq_of_lt (by omega)
    rw [rank_toFloat (by omega), hword, hrank]
    omega
  refine ⟨by omega, by omega, ?_⟩
  rw [magnitude_of_rank hcanonical hconverted (by omega), ← hvalue]

lemma magnitude_ofNat {n : ℕ} (hpos : 0 < n) (hlt : n < 2 ^ 53) :
    0 < rank (Float.ofNat n) ∧ rank (Float.ofNat n) < infinityRank ∧
      magnitude (Float.ofNat n) = n := by
  obtain ⟨hword, hword', hvalue⟩ := magnitude_toFloat hpos hlt
  obtain ⟨hone, hone', hmagnitude⟩ := magnitude_one
  obtain ⟨m, e, hm, hcanonical, hrank, hparts, -⟩ := exists_parts hword hword'
  have hproduct : rank (Float.ofNat n) = rank n.toUInt64.toFloat := by
    have hofNat : Float.ofNat n = n.toUInt64.toFloat * 1.0 := dif_pos ⟨hlt, by decide⟩
    rw [hofNat, rank_mul hword hword' hone hone', hmagnitude, mul_one,
      roundedRank_magnitude hword hword']
    omega
  refine ⟨by omega, by omega, ?_⟩
  rw [magnitude_of_rank hcanonical (hproduct.trans hrank) (by omega), ← hparts, hvalue]

/-- A float is cut off to a whole number of 64 bits. -/
lemma toNat_toUInt64 (hpos : 0 < rank x) (hfinite : rank x < infinityRank) :
    x.toUInt64.toNat = min ⌊magnitude x⌋₊ (2 ^ 64 - 1) := by
  obtain ⟨m, e, hm, -, -, hmagnitude, hunpack⟩ := exists_parts hpos hfinite
  have hvalue : magnitude x = (m <<< e.toNat : ℕ) * 2 ^ (e - e.toNat) / 2 ^ (0 : ℤ) := by
    rw [hmagnitude, Nat.shiftLeft_eq]
    push_cast
    rw [mul_assoc, ← zpow_natCast, ← zpow_add₀ two_ne_zero]
    simp
  have hfloor : ⌊magnitude x⌋₊ =
      (shiftToExponent (m <<< e.toNat) (e - e.toNat) .exact 0).1.mantissa := by
    rw [hvalue]
    exact (shiftToExponent_represents (.natCast _) (by omega)).1.floor
  have hword : x.toUInt64 = UInt64.ofNatClamp ⌊magnitude x⌋₊ := by
    have hint : x.toUInt64 =
        UInt64.ofNatClamp (x.toModel.unpack.toInt 0 (UInt64.size - 1)).toNat := rfl
    rw [hint, hunpack, UnpackedFloat.toInt, roundToInt]
    simp only [decreaseExponent, Int.sub_zero, ← hfloor]
    rfl
  rw [hword]
  unfold UInt64.ofNatClamp
  by_cases hfits : ⌊magnitude x⌋₊ < UInt64.size
  · rw [dif_pos hfits, UInt64.toNat_ofNatLT]
    unfold UInt64.size at hfits
    omega
  · rw [dif_neg hfits, UInt64.toNat_ofNatLT]
    unfold UInt64.size at hfits ⊢
    omega

end Floats

end LoadTest.Proofs
