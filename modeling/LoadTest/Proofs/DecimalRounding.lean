import LoadTest.Number.Decimal
import LoadTest.Proofs.FloatRounding

/-!
# Decimals rounded to floats

A decimal is read as the float nearest to it, whether its digits and its power of ten are exact
floats, so that one operation gives the result, or not.
-/

namespace LoadTest.Proofs

open Float.Model Float.Model.UnpackedFloat

/-! ### Powers of ten -/

/-- The powers of ten that are floats. -/
lemma magnitude_powerOfTen {e : ℕ} (h : e < Float.exactlyRepresentablePowersOfTen.size) :
    0 < rank Float.exactlyRepresentablePowersOfTen[e] ∧
      rank Float.exactlyRepresentablePowersOfTen[e] < infinityRank ∧
      magnitude Float.exactlyRepresentablePowersOfTen[e] = 10 ^ e := by
  have htable : ∀ e : Fin 23,
      0 < rank Float.exactlyRepresentablePowersOfTen[e] ∧
        rank Float.exactlyRepresentablePowersOfTen[e] < infinityRank ∧
        (BinaryFraction.ofFloat? Float.exactlyRepresentablePowersOfTen[e]).any fun exact =>
          -52 ≤ exact.exponent &&
            exact.mantissa * 2 ^ (exact.exponent + 52).toNat = 10 ^ e.val * 2 ^ 52 := by
    decide +kernel
  obtain ⟨hpos, hfinite, hvalue⟩ := htable ⟨e, h⟩
  obtain ⟨exact, hexact, hvalue⟩ := (Option.any_eq_true _ _).1 hvalue
  rw [Bool.and_eq_true, decide_eq_true_eq, decide_eq_true_eq] at hvalue
  obtain ⟨hleast, hvalue⟩ := hvalue
  have hvalue' : (exact.mantissa : ℚ) * 2 ^ (exact.exponent + 52).toNat = 10 ^ e * 2 ^ 52 := by
    exact_mod_cast hvalue
  have hscale : (2 : ℚ) ^ exact.exponent = 2 ^ (exact.exponent + 52).toNat / 2 ^ 52 := by
    rw [eq_div_iff (by positivity), ← zpow_natCast, ← zpow_natCast, ← zpow_add₀ two_ne_zero]
    congr 1
    omega
  have hread : magnitude Float.exactlyRepresentablePowersOfTen[e] =
      exact.mantissa * 2 ^ exact.exponent := by
    unfold magnitude
    exact hexact ▸ rfl
  refine ⟨hpos, hfinite, ?_⟩
  rw [hread, hscale, ← mul_div_assoc, hvalue', mul_div_cancel_right₀ _ (by positivity)]

/-! ### Decimals -/

section Decimals

variable {m e : ℕ}

lemma ofScientific_up_parts (hm : 0 < m) (he : e ≤ 2048) (hm' : 0 < m * 2 ^ 53) (he' : 0 < 10 ^ e) :
    UnpackedFloat.ofScientific Format.binary64 m e = UnpackedFloat.mul Format.binary64
      (.finite .positive (m * 2 ^ 53) (-53) hm') (.finite .positive (10 ^ e) 0 he') := by
  have hwide : (2 : ℤ) ^ Format.binary64.exponentBits = 2048 := rfl
  have hshift : m <<< 53 = m * 2 ^ 53 := Nat.shiftLeft_eq m 53
  unfold UnpackedFloat.ofScientific
  rw [hwide, dif_neg hm.ne', if_neg (by omega), if_neg (by omega), if_pos (Int.natCast_nonneg e)]
  simp only [Format.mantissaBits, hshift, Int.toNat_natCast]
  rfl

lemma rank_ofScientific_up (hm : 0 < m) (he : e ≤ 2048) :
    rank (Float.ofScientific m false e) = min infinityRank (roundedRank (m * 10 ^ e)) := by
  by_cases hexact : m < 2 ^ 53 ∧ e ≤ 22
  · obtain ⟨hm₀, hm₁, hmagnitude⟩ := magnitude_toFloat hm hexact.1
    have hlisted : e < Float.exactlyRepresentablePowersOfTen.size := Nat.lt_succ_of_le hexact.2
    obtain ⟨he₀, he₁, hpower⟩ := magnitude_powerOfTen hlisted
    have hread : Float.ofScientific m false e =
        m.toUInt64.toFloat * Float.exactlyRepresentablePowersOfTen[e] := dif_pos hexact
    rw [hread, rank_mul hm₀ hm₁ he₀ he₁, hmagnitude, hpower]
  · have hm₁ : 0 < m * 2 ^ 53 := by positivity
    have he₁ : 0 < 10 ^ e := by positivity
    have hread : Float.ofScientific m false e = ⟨Float.Model.ofScientific m e⟩ := dif_neg hexact
    have hunit : (-53 + 0 : ℤ) ≤ unitExponent ((m * 2 ^ 53 * 10 ^ e : ℕ) * 2 ^ (-53 + 0 : ℤ)) := by
      have hlog : 53 ≤ Nat.log 2 (m * 2 ^ 53 * 10 ^ e) := by
        refine Nat.le_log_of_pow_le (by decide) ?_
        rw [Nat.mul_right_comm]
        exact Nat.le_mul_of_pos_left _ (by positivity)
      generalize m * 2 ^ 53 * 10 ^ e = product at hlog
      have hpos : 0 < product := by
        by_contra hzero
        simp [Nat.eq_zero_of_not_pos hzero] at hlog
      rw [unitExponent, log_mul_zpow (by exact_mod_cast hpos), Int.log_natCast]
      omega
    have hvalue : ((m * 2 ^ 53 : ℕ) : ℚ) * 2 ^ (-53 : ℤ) * ((10 ^ e : ℕ) * 2 ^ (0 : ℤ)) =
        m * 10 ^ e := by
      have hplaces : (2 : ℚ) ^ (-53 : ℤ) = 1 / 2 ^ 53 := by norm_num
      rw [hplaces, zpow_zero]
      push_cast
      ring
    have hrank : rank (Float.ofScientific m false e) =
        packedRank (UnpackedFloat.ofScientific Format.binary64 m e) := by
      rw [hread]
      rfl
    rw [hrank, ofScientific_up_parts hm he hm₁ he₁, packedRank_mul hm₁ he₁ hunit, hvalue]

lemma ofScientific_down_parts (hm : 0 < m) (he₀ : 0 < e) (he : e ≤ 2048 + Nat.log2 m)
    (he' : 0 < 10 ^ e) :
    UnpackedFloat.ofScientific Format.binary64 m (Int.negOfNat e) =
      UnpackedFloat.div Format.binary64 (.finite .positive m 0 hm)
        (.finite .positive (10 ^ e) 0 he') := by
  have hwide : (2 : ℤ) ^ Format.binary64.exponentBits = 2048 := rfl
  have hpower : (-(-(e : ℤ))).toNat = e := by omega
  unfold UnpackedFloat.ofScientific
  rw [Int.negOfNat_eq, hwide, dif_neg hm.ne', if_neg (by simp), if_neg (by simp; omega),
    if_neg (by simp; omega)]
  simp only [Int.ofNat_eq_natCast, hpower]

lemma rank_ofScientific_down (hm : 0 < m) (he : e ≤ 2048 + Nat.log2 m) :
    rank (Float.ofScientific m true e) = min infinityRank (roundedRank (m / 10 ^ e)) := by
  by_cases hexact : m < 2 ^ 53 ∧ e ≤ 22
  · obtain ⟨hm₀, hm₁, hmagnitude⟩ := magnitude_toFloat hm hexact.1
    have hlisted : e < Float.exactlyRepresentablePowersOfTen.size := Nat.lt_succ_of_le hexact.2
    obtain ⟨he₀, he₁, hpower⟩ := magnitude_powerOfTen hlisted
    have hread : Float.ofScientific m true e =
        m.toUInt64.toFloat / Float.exactlyRepresentablePowersOfTen[e] := dif_pos hexact
    rw [hread, rank_div hm₀ hm₁ he₀ he₁, hmagnitude, hpower]
  · have hread : Float.ofScientific m true e = ⟨Float.Model.ofScientific m (Int.negOfNat e)⟩ :=
      dif_neg hexact
    obtain rfl | he₀ := Nat.eq_zero_or_pos e
    · have hup : Float.ofScientific m false 0 = ⟨Float.Model.ofScientific m 0⟩ := dif_neg hexact
      have hsame : Float.ofScientific m true 0 = Float.ofScientific m false 0 := by
        rw [hread, hup]
        rfl
      rw [hsame, rank_ofScientific_up hm (by decide), pow_zero, mul_one, div_one]
    · have he₁ : 0 < 10 ^ e := by positivity
      have hrank : rank (Float.ofScientific m true e) =
          packedRank (UnpackedFloat.ofScientific Format.binary64 m (Int.negOfNat e)) := by
        rw [hread]
        rfl
      rw [hrank, ofScientific_down_parts hm he₀ he he₁, packedRank_div hm he₁]
      simp

/-- A whole number of 64 bits is finite as a float. -/
lemma rank_ofNat_lt {n : ℕ} (h : n < 2 ^ 64) : rank (Float.ofNat n) < infinityRank := by
  obtain rfl | hpos := Nat.eq_zero_or_pos n
  · decide +kernel
  · have hrank := rank_ofScientific_up hpos (Nat.zero_le 2048)
    rw [pow_zero, mul_one] at hrank
    have hcanonical : Canonical (2 ^ 52) 12 := ⟨by decide, by decide, .inl le_rfl⟩
    have hle : roundedRank n ≤ roundedRank ((2 ^ 52 : ℕ) * 2 ^ (12 : ℤ)) := by
      refine roundedRank_mono (by exact_mod_cast hpos) ?_
      have hlt : (n : ℚ) ≤ 2 ^ 64 := by exact_mod_cast h.le
      norm_num at hlt ⊢
      exact hlt
    rw [roundedRank_canonical (by decide) hcanonical] at hle
    have hlimit : canonicalRank (2 ^ 52) 12 < infinityRank := by decide
    have hofNat : rank (Float.ofNat n) = rank (Float.ofScientific n false 0) := rfl
    omega

lemma lt_pow_width (n : ℕ) : n < 10 ^ Decimal.width n :=
  (Nat.length_toDigits_le_iff (by decide) (List.length_pos_iff.2 Nat.toDigits_ne_nil)).1 le_rfl

lemma pow_width_le {n : ℕ} (hn : 0 < n) : 10 ^ (Decimal.width n - 1) ≤ n := by
  obtain hshort | hlong := Nat.eq_zero_or_pos (Decimal.width n - 1)
  · rw [hshort, pow_zero]
    exact hn
  · by_contra! hlt
    have hwidth : Decimal.width n ≤ Decimal.width n - 1 :=
      (Nat.length_toDigits_le_iff (by decide) hlong).2 hlt
    omega

lemma width_le_log2 {n : ℕ} (hn : 0 < n) : Decimal.width n ≤ Nat.log2 n + 1 := by
  have hpower : 2 ^ (Decimal.width n - 1) ≤ n :=
    (Nat.pow_le_pow_left (by decide) _).trans (pow_width_le hn)
  have hlog := (Nat.le_log2 hn.ne').2 hpower
  omega

variable {d : Decimal}

/-- A decimal of more than 310 digits before the point is beyond the floats. -/
lemma infinityRank_le_of_order (hc : 0 < d.coefficient)
    (h : 310 < d.exponent + Decimal.width d.coefficient) :
    infinityRank ≤ roundedRank (d.coefficient * 10 ^ d.exponent) := by
  apply infinityRank_le_roundedRank
  have hwidth : 0 < Decimal.width d.coefficient := List.length_pos_iff.2 Nat.toDigits_ne_nil
  have hpowers : 2 ^ 1024 ≤ 10 ^ 310 := by decide +kernel
  calc (2 : ℚ) ^ 1024 ≤ 10 ^ (310 : ℤ) := by
        rw [zpow_ofNat]
        exact_mod_cast hpowers
    _ ≤ 10 ^ ((Decimal.width d.coefficient - 1 : ℕ) + d.exponent) :=
      zpow_le_zpow_right₀ (by norm_num) (by omega)
    _ = 10 ^ (Decimal.width d.coefficient - 1) * 10 ^ d.exponent := by
      rw [zpow_add₀ (by norm_num), zpow_natCast]
    _ ≤ d.coefficient * 10 ^ d.exponent := by
      gcongr
      exact_mod_cast pow_width_le hc

/-- A decimal that begins with 330 zeros after the point is below the floats. -/
lemma roundedRank_of_order (hc : 0 < d.coefficient)
    (h : d.exponent + Decimal.width d.coefficient < -330) :
    roundedRank (d.coefficient * 10 ^ d.exponent) = 0 := by
  have hpowers : 2 ^ 1075 < 10 ^ 330 := by decide +kernel
  refine roundedRank_eq_zero (by positivity) ?_
  calc (d.coefficient : ℚ) * 10 ^ d.exponent
      ≤ 10 ^ Decimal.width d.coefficient * 10 ^ d.exponent := by
        gcongr
        exact_mod_cast (lt_pow_width d.coefficient).le
    _ = 10 ^ (Decimal.width d.coefficient + d.exponent) := by
      rw [zpow_add₀ (by norm_num), zpow_natCast]
    _ ≤ 10 ^ (-330 : ℤ) := zpow_le_zpow_right₀ (by norm_num) (by omega)
    _ < 2 ^ (-1075 : ℤ) := by
      rw [zpow_neg, zpow_neg, zpow_ofNat, zpow_ofNat, inv_lt_inv₀ (by positivity) (by positivity)]
      exact_mod_cast hpowers

/-- A decimal is read as the float nearest to it, however many digits it has. -/
theorem rank_magnitude_eq (hc : 0 < d.coefficient) :
    rank d.magnitude = min infinityRank (roundedRank (d.coefficient * 10 ^ d.exponent)) := by
  have hwidth := width_le_log2 hc
  have hinfinity : rank Decimal.infinity = infinityRank := by decide +kernel
  have hzero : rank (0.0 : Float) = 0 := by decide
  unfold Decimal.magnitude
  dsimp only
  rw [if_neg hc.ne']
  split_ifs with hgreat hsmall
  · rw [hinfinity, Nat.min_eq_left (infinityRank_le_of_order hc hgreat)]
  · rw [hzero, roundedRank_of_order hc hsmall, Nat.min_zero]
  · by_cases hdown : d.exponent < 0
    · have hexponent : d.exponent = -(d.exponent.natAbs : ℤ) := by omega
      have hvalue : (d.coefficient : ℚ) / 10 ^ d.exponent.natAbs =
          d.coefficient * 10 ^ d.exponent := by
        rw [div_eq_mul_inv, ← zpow_natCast, ← zpow_neg, ← hexponent]
      rw [decide_eq_true hdown, rank_ofScientific_down hc (by omega), hvalue]
    · have hexponent : d.exponent = (d.exponent.natAbs : ℤ) := by omega
      have hvalue : (d.coefficient : ℚ) * 10 ^ d.exponent.natAbs =
          d.coefficient * 10 ^ d.exponent := by
        rw [← zpow_natCast, ← hexponent]
      rw [decide_eq_false hdown, rank_ofScientific_up hc (by omega), hvalue]

end Decimals

end LoadTest.Proofs
