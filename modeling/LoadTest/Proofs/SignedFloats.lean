import LoadTest.Proofs.FloatRounding

/-!
# Floats of either sign

A negative float has the rank of the positive one below zero instead of above it, and both zeros
have the rank zero. Among floats that are numbers the order is that of these signed ranks, the
infinite ones included. Subtracting a finite float, and multiplying or dividing by a positive one,
round the exact result and keep an infinite operand, so that they keep the order.
-/

namespace LoadTest.Proofs

open Float.Model Float.Model.UnpackedFloat

/-! ### Signed rounding -/

section SignedRound

/-- The signed rank of the float nearest to a number. -/
def signedRound (v : ℚ) : ℤ :=
  if 0 < v then (min infinityRank (roundedRank v) : ℕ)
  else if v < 0 then -(min infinityRank (roundedRank (-v)) : ℕ)
  else 0

variable {v w : ℚ}

lemma signedRound_of_pos (h : 0 < v) : signedRound v = (min infinityRank (roundedRank v) : ℕ) :=
  if_pos h

@[simp] lemma signedRound_zero : signedRound 0 = 0 := rfl

lemma signedRound_neg (v : ℚ) : signedRound (-v) = -signedRound v := by
  unfold signedRound
  obtain h | rfl | h := lt_trichotomy v 0
  · rw [if_pos (by linarith), if_neg (by linarith), if_pos h, neg_neg]
  · rfl
  · rw [if_neg (by linarith), if_pos (by linarith), if_pos h, neg_neg]

lemma signedRound_nonneg (h : 0 ≤ v) : 0 ≤ signedRound v := by
  obtain hpos | rfl := h.lt_or_eq
  · rw [signedRound_of_pos hpos]
    positivity
  · exact le_rfl

lemma signedRound_mono_of_pos (hv : 0 < v) (h : v ≤ w) : signedRound v ≤ signedRound w := by
  have hround := roundedRank_mono hv h
  rw [signedRound_of_pos hv, signedRound_of_pos (hv.trans_le h)]
  omega

/-- Rounding keeps the order across zero. -/
theorem signedRound_mono : Monotone signedRound := by
  intro v w h
  obtain hv | hv := lt_or_ge 0 v
  · exact signedRound_mono_of_pos hv h
  · obtain hw | hw := le_or_gt 0 w
    · have hneg := signedRound_nonneg (neg_nonneg.2 hv)
      rw [signedRound_neg] at hneg
      exact (neg_nonneg.1 hneg).trans (signedRound_nonneg hw)
    · have hflip := signedRound_mono_of_pos (neg_pos.2 hw) (neg_le_neg h)
      rw [signedRound_neg, signedRound_neg] at hflip
      exact neg_le_neg_iff.1 hflip

lemma abs_signedRound_le (v : ℚ) : |signedRound v| ≤ infinityRank := by
  unfold signedRound
  rw [abs_le]
  split_ifs <;> omega

end SignedRound

/-! ### Signed ranks of packed floats -/

section Packed

/-- The signed rank of the float with the given bits. -/
def place (bits : ℕ) : ℤ := if bits < 2 ^ 63 then bits else 2 ^ 63 - bits

/-- The signed rank of the float that a float in its parts is packed into. -/
def packedPlace (u : UnpackedFloat) : ℤ := place (packedRank u)

/-- A number with the given sign. -/
def signed {α : Type} [Neg α] (s : Sign) (a : α) : α :=
  match s with
  | .positive => a
  | .negative => -a

@[simp] lemma signed_positive {α : Type} [Neg α] (a : α) : signed .positive a = a := rfl

@[simp] lemma signed_negative {α : Type} [Neg α] (a : α) : signed .negative a = -a := rfl

variable {m : ℕ} {e : ℤ}

lemma packedRank_positive_lt (hm : 0 < m) : packedRank (.finite .positive m e hm) < 2 ^ 63 := by
  have hlt (field : BitVec 11) (mantissa : BitVec 52) :
      (packComponents Format.binary64 .positive field mantissa).toNat < 2 ^ 63 := by
    have hfield := field.isLt
    have hmantissa := mantissa.isLt
    rw [toNat_packComponents]
    omega
  unfold packedRank UnpackedFloat.pack
  dsimp only
  split_ifs
  · exact hlt _ _
  · exact hlt _ _
  · exact hlt _ _

lemma packedPlace_positive (hm : 0 < m) :
    packedPlace (.finite .positive m e hm) = packedRank (.finite .positive m e hm) :=
  if_pos (packedRank_positive_lt hm)

lemma packedPlace_negative (hm : 0 < m) :
    packedPlace (.finite .negative m e hm) = -packedPlace (.finite .positive m e hm) := by
  rw [packedPlace_positive, packedPlace, packedRank_negative, place, if_neg (by omega)]
  push_cast
  ring

lemma packedPlace_infinity (s : Sign) : packedPlace (.infinity s) = signed s (infinityRank : ℤ) := by
  cases s <;> decide

lemma packedPlace_zero (s : Sign) : packedPlace (.zero s) = 0 := by
  cases s <;> decide

/-- What is rounded with the other sign has the other sign. -/
lemma packedPlace_roundWithAccuracy (s : Sign) (m : ℕ) (e : ℤ) (a : Accuracy) :
    packedPlace (roundWithAccuracy Format.binary64 s m e a) =
      signed s (packedPlace (roundWithAccuracy Format.binary64 .positive m e a)) := by
  cases s with
  | positive => rfl
  | negative =>
    unfold roundWithAccuracy
    dsimp only
    split
    · rw [packedPlace_zero, packedPlace_zero]
      rfl
    · exact packedPlace_negative _

lemma packedPlace_of_packedRank {u : UnpackedFloat} {v : ℚ} (hv : 0 < v)
    (h : packedRank u = min infinityRank (roundedRank v)) : packedPlace u = signedRound v := by
  have hlt : min infinityRank (roundedRank v) < 2 ^ 63 := by
    unfold infinityRank
    omega
  rw [signedRound_of_pos hv, packedPlace, h, place, if_pos hlt]

lemma signed_signedRound (s : Sign) (v : ℚ) : signed s (signedRound v) = signedRound (signed s v) := by
  cases s with
  | positive => rfl
  | negative => exact (signedRound_neg v).symm

lemma packedPlace_round (s : Sign) (hm : 0 < m) (e : ℤ) :
    packedPlace (UnpackedFloat.round Format.binary64 s m e) =
      signedRound (signed s (m * 2 ^ e)) := by
  rw [← signed_signedRound, ← packedPlace_of_packedRank (by positivity) (packedRank_round hm e)]
  exact packedPlace_roundWithAccuracy ..

/-- A whole number of units of either sign is rounded. -/
lemma packedPlace_normalize (k e : ℤ) (s : Sign) :
    packedPlace (UnpackedFloat.normalize Format.binary64 k e s) = signedRound (k * 2 ^ e) := by
  unfold UnpackedFloat.normalize
  obtain h | rfl | h := lt_trichotomy k 0
  · have hcast : ((-k).toNat : ℚ) = -(k : ℚ) := by exact_mod_cast Int.toNat_of_nonneg (by omega)
    rw [compare_lt_iff_lt.2 h]
    simp only [packedPlace_round _ (by omega : 0 < (-k).toNat), hcast, signed]
    rw [neg_mul, neg_neg]
  · simp [packedPlace_zero]
  · have hcast : (k.toNat : ℚ) = k := by exact_mod_cast Int.toNat_of_nonneg h.le
    rw [compare_gt_iff_gt.2 h]
    simp only [packedPlace_round _ (by omega : 0 < k.toNat), hcast, signed]

end Packed

/-! ### Parts of numbers -/

section Parts

/-- The parts of floats that are numbers. -/
inductive IsNumber : UnpackedFloat → Prop where
  | infinity (s : Sign) : IsNumber (.infinity s)
  | zero (s : Sign) : IsNumber (.zero s)
  | finite {m : ℕ} {e : ℤ} (s : Sign) (hm : 0 < m) (canonical : Canonical m e)
      (inRange : canonicalRank m e < infinityRank) : IsNumber (.finite s m e hm)

/-- The value of a finite float in its parts. -/
def partsValue : UnpackedFloat → ℚ
  | .finite s m e _ => signed s (m * 2 ^ e)
  | _ => 0

@[simp] lemma partsValue_zero (s : Sign) : partsValue (.zero s) = 0 := rfl

@[simp] lemma partsValue_finite (s : Sign) {m : ℕ} (e : ℤ) (hm : 0 < m) :
    partsValue (.finite s m e hm) = signed s ((m : ℚ) * 2 ^ e) := rfl

variable {m : ℕ} {e : ℤ} {u w : UnpackedFloat}

lemma packedPlace_finite (s : Sign) (hm : 0 < m) (h : Canonical m e)
    (hrange : canonicalRank m e < infinityRank) :
    packedPlace (.finite s m e hm) = signed s (canonicalRank m e : ℤ) := by
  have hpositive : packedPlace (.finite .positive m e hm) = canonicalRank m e := by
    rw [packedPlace_positive, packedRank_finite hm h, Nat.min_eq_right hrange.le]
  cases s with
  | positive => exact hpositive
  | negative => rw [packedPlace_negative, hpositive, signed]

lemma canonicalRank_pos (hm : 0 < m) : 0 < canonicalRank m e := by
  unfold canonicalRank
  omega

/-- A finite float is not rounded. -/
lemma IsNumber.packedPlace_eq (h : IsNumber u) (hfinite : u.isFinite = true) :
    packedPlace u = signedRound (partsValue u) := by
  cases h with
  | infinity s => cases hfinite
  | zero s => exact packedPlace_zero s
  | finite s hm hcanonical hrange =>
    have hround := roundedRank_canonical hm hcanonical
    rw [packedPlace_finite s hm hcanonical hrange, partsValue, ← signed_signedRound,
      signedRound_of_pos (by positivity), hround, Nat.min_eq_right hrange.le]

lemma IsNumber.neg (h : IsNumber u) : IsNumber u.neg ∧ packedPlace u.neg = -packedPlace u := by
  cases h with
  | infinity s =>
    refine ⟨.infinity _, ?_⟩
    cases s <;> decide
  | zero s =>
    refine ⟨.zero _, ?_⟩
    cases s <;> decide
  | finite s hm hcanonical hrange =>
    refine ⟨.finite _ hm hcanonical hrange, ?_⟩
    cases s with
    | positive => exact packedPlace_negative hm
    | negative => rw [packedPlace_negative hm, neg_neg]; rfl

lemma abs_signed (s : Sign) (n : ℕ) : |signed s (n : ℤ)| = n := by
  cases s <;> simp [signed]

lemma IsNumber.abs_packedPlace_lt (h : IsNumber u) (hfinite : u.isFinite = true) :
    |packedPlace u| < infinityRank := by
  cases h with
  | infinity s => cases hfinite
  | zero s =>
    rw [packedPlace_zero, abs_zero]
    decide
  | finite s hm hcanonical hrange =>
    rw [packedPlace_finite s hm hcanonical hrange, abs_signed]
    exact_mod_cast hrange

/-- Beyond the finite numbers there are two more, one at each end. -/
lemma IsNumber.isFinite_or_isInf (h : IsNumber u) :
    u.isFinite = true ∨ u.isInf = true ∧ |packedPlace u| = infinityRank := by
  cases h with
  | infinity s =>
    right
    rw [packedPlace_infinity, abs_signed]
    exact ⟨rfl, rfl⟩
  | zero s => exact .inl rfl
  | finite s hm hcanonical hrange => exact .inl rfl

lemma unpack_negative {b b' : BitVec 64} (h : b.toNat = b'.toNat + 2 ^ 63) :
    UnpackedFloat.unpack Format.binary64 b = (UnpackedFloat.unpack Format.binary64 b').neg := by
  have hlt := b.isLt
  have hmantissa : @unpackMantissa Format.binary64 b = @unpackMantissa Format.binary64 b' := by
    apply BitVec.eq_of_toNat_eq
    rw [toNat_unpackMantissa, toNat_unpackMantissa]
    omega
  have hexponent : @unpackExponent Format.binary64 b = @unpackExponent Format.binary64 b' := by
    apply BitVec.eq_of_toNat_eq
    rw [toNat_unpackExponent, toNat_unpackExponent]
    omega
  unfold UnpackedFloat.unpack
  simp only [hmantissa, hexponent, unpackSign_eq_one (show 2 ^ 63 ≤ b.toNat by omega),
    unpackSign_eq_zero (show b'.toNat < 2 ^ 63 by omega)]
  split_ifs <;> rfl

lemma unpack_of_lt {b : BitVec 64} (h : b.toNat < 2 ^ 63) :
    UnpackedFloat.unpack Format.binary64 b = .notANumber ∧ infinityRank < b.toNat ∨
      IsNumber (UnpackedFloat.unpack Format.binary64 b) ∧
        packedPlace (UnpackedFloat.unpack Format.binary64 b) = b.toNat := by
  have hnumber {m : ℕ} {e : ℤ} {hm : 0 < m} (hcanonical : Canonical m e)
      (hrank : canonicalRank m e = b.toNat) (hrange : b.toNat < infinityRank)
      (hunpack : UnpackedFloat.unpack Format.binary64 b = .finite .positive m e hm) :
      IsNumber (UnpackedFloat.unpack Format.binary64 b) ∧
        packedPlace (UnpackedFloat.unpack Format.binary64 b) = b.toNat := by
    rw [hunpack, packedPlace_finite .positive hm hcanonical (by omega), ← hrank]
    exact ⟨.finite _ hm hcanonical (by omega), rfl⟩
  obtain hrange | hrange := lt_or_ge b.toNat infinityRank
  · right
    unfold infinityRank at hrange
    obtain hzero | hpos := Nat.eq_zero_or_pos b.toNat
    · obtain rfl : b = 0#64 := BitVec.eq_of_toNat_eq hzero
      exact ⟨.zero .positive, rfl⟩
    · by_cases hlow : b.toNat < 2 ^ 52
      · exact hnumber ⟨by omega, le_rfl, .inr rfl⟩ (by simp [canonicalRank]) hrange
          (unpack_subnormal hlow hpos)
      · exact hnumber ⟨by omega, by omega, .inl (by omega)⟩ (by unfold canonicalRank; omega) hrange
          (unpack_normal rfl (by omega) (by omega) (by omega))
  · obtain hinfinite | hnan := hrange.eq_or_lt
    · right
      obtain rfl : b = BitVec.ofNat 64 infinityRank := BitVec.eq_of_toNat_eq hinfinite.symm
      exact ⟨.infinity .positive, rfl⟩
    · left
      refine ⟨?_, hnan⟩
      unfold infinityRank at hnan
      have hones : @unpackExponent Format.binary64 b = -1#11 := by
        apply BitVec.eq_of_toNat_eq
        rw [toNat_unpackExponent]
        simp
        omega
      have hmantissa : @unpackMantissa Format.binary64 b ≠ 0#52 := by
        intro hzero
        have hmod := toNat_unpackMantissa b
        rw [hzero] at hmod
        simp at hmod
        omega
      unfold UnpackedFloat.unpack
      simp only [hones, if_true, if_neg hmantissa]

/-- The bits of a float that is no number are beyond those of the infinite ones. -/
lemma unpack_cases (b : BitVec 64) :
    UnpackedFloat.unpack Format.binary64 b = .notANumber ∧ infinityRank < |place b.toNat| ∨
      IsNumber (UnpackedFloat.unpack Format.binary64 b) ∧
        packedPlace (UnpackedFloat.unpack Format.binary64 b) = place b.toNat := by
  unfold place
  obtain hlt | hge := lt_or_ge b.toNat (2 ^ 63)
  · rw [if_pos hlt, Nat.abs_cast, Nat.cast_lt]
    exact unpack_of_lt hlt
  · rw [if_neg (by omega)]
    obtain ⟨b', hb'⟩ : ∃ b' : BitVec 64, b.toNat = b'.toNat + 2 ^ 63 := by
      refine ⟨BitVec.ofNat 64 (b.toNat - 2 ^ 63), ?_⟩
      have hlt := b.isLt
      rw [BitVec.toNat_ofNat]
      omega
    have hlt := b.isLt
    have hplace : (2 : ℤ) ^ 63 - b.toNat = -b'.toNat := by omega
    rw [unpack_negative hb', hplace, abs_neg, Nat.abs_cast, Nat.cast_lt]
    obtain ⟨hnan, hrank⟩ | ⟨hnumber, hrank⟩ := unpack_of_lt (b := b') (by omega)
    · left
      rw [hnan]
      exact ⟨rfl, hrank⟩
    · right
      rw [hnumber.neg.2, hrank]
      exact ⟨hnumber.neg.1, rfl⟩

end Parts

/-! ### The order of numbers -/

section Order

variable {m : ℕ} {e : ℤ} {u w : UnpackedFloat}

lemma compare_signed_zero (s : Sign) {a : ℕ} (ha : 0 < a) :
    compare (signed s (a : ℤ)) 0 = match s with
      | .positive => .gt
      | .negative => .lt := by
  cases s with
  | positive => exact compare_gt_iff_gt.2 (Int.natCast_pos.2 ha)
  | negative => exact compare_lt_iff_lt.2 (Int.neg_neg_of_pos (Int.natCast_pos.2 ha))

lemma compare_zero_signed (s : Sign) {a : ℕ} (ha : 0 < a) :
    compare 0 (signed s (a : ℤ)) = match s with
      | .positive => .lt
      | .negative => .gt := by
  cases s with
  | positive => exact compare_lt_iff_lt.2 (Int.natCast_pos.2 ha)
  | negative => exact compare_gt_iff_gt.2 (Int.neg_neg_of_pos (Int.natCast_pos.2 ha))

lemma compare_signed (s t : Sign) {a b : ℕ} (ha : 0 < a) (hb : 0 < b) :
    compare (signed s (a : ℤ)) (signed t (b : ℤ)) = match s, t with
      | .positive, .positive => compare a b
      | .positive, .negative => .gt
      | .negative, .positive => .lt
      | .negative, .negative => (compare a b).swap := by
  cases s with
  | positive =>
    cases t with
    | positive =>
      obtain h | rfl | h := lt_trichotomy a b
      · exact (compare_lt_iff_lt.2 (Int.ofNat_lt.2 h)).trans (compare_lt_iff_lt.2 h).symm
      · exact (compare_eq_iff_eq.2 rfl).trans (compare_eq_iff_eq.2 rfl).symm
      · exact (compare_gt_iff_gt.2 (Int.ofNat_lt.2 h)).trans (compare_gt_iff_gt.2 h).symm
    | negative => exact compare_gt_iff_gt.2 (by simp only [signed]; omega)
  | negative =>
    cases t with
    | positive => exact compare_lt_iff_lt.2 (by simp only [signed]; omega)
    | negative =>
      obtain h | rfl | h := lt_trichotomy a b
      · rw [compare_lt_iff_lt.2 h]
        exact compare_gt_iff_gt.2 (Int.neg_lt_neg (Int.ofNat_lt.2 h))
      · rw [compare_eq_iff_eq.2 (Eq.refl a)]
        exact compare_eq_iff_eq.2 rfl
      · rw [compare_gt_iff_gt.2 h]
        exact compare_lt_iff_lt.2 (Int.neg_lt_neg (Int.ofNat_lt.2 h))

lemma IsNumber.compare_eq (hu : IsNumber u) (hw : IsNumber w) :
    u.compare w = some (compare (packedPlace u) (packedPlace w)) := by
  have hinfinity : 0 < infinityRank := by decide
  cases hu with
  | infinity s =>
    cases hw with
    | infinity t =>
      rw [packedPlace_infinity, packedPlace_infinity, compare_signed s t hinfinity hinfinity,
        compare_eq_iff_eq.2 (Eq.refl infinityRank)]
      cases s <;> cases t <;> rfl
    | zero t =>
      rw [packedPlace_infinity, packedPlace_zero, compare_signed_zero s hinfinity]
      cases s <;> rfl
    | finite t hm hcanonical hrange =>
      rw [packedPlace_infinity, packedPlace_finite t hm hcanonical hrange,
        compare_signed s t hinfinity (canonicalRank_pos hm), compare_gt_iff_gt.2 hrange]
      cases s <;> cases t <;> rfl
  | zero s =>
    cases hw with
    | infinity t =>
      rw [packedPlace_infinity, packedPlace_zero, compare_zero_signed t hinfinity]
      cases t <;> rfl
    | zero t =>
      rw [packedPlace_zero, packedPlace_zero]
      rfl
    | finite t hm hcanonical hrange =>
      rw [packedPlace_zero, packedPlace_finite t hm hcanonical hrange,
        compare_zero_signed t (canonicalRank_pos hm)]
      cases t <;> rfl
  | finite s hm hcanonical hrange =>
    cases hw with
    | infinity t =>
      rw [packedPlace_infinity, packedPlace_finite s hm hcanonical hrange,
        compare_signed s t (canonicalRank_pos hm) hinfinity, compare_lt_iff_lt.2 hrange]
      cases s <;> cases t <;> rfl
    | zero t =>
      rw [packedPlace_zero, packedPlace_finite s hm hcanonical hrange,
        compare_signed_zero s (canonicalRank_pos hm)]
      cases s <;> rfl
    | finite t hm' hcanonical' hrange' =>
      rw [packedPlace_finite s hm hcanonical hrange, packedPlace_finite t hm' hcanonical' hrange',
        compare_signed s t (canonicalRank_pos hm) (canonicalRank_pos hm'),
        ← compare_canonical hcanonical hcanonical']
      cases s <;> cases t <;> rfl

lemma signed_inj {s t : Sign} {a b : ℕ} (ha : 0 < a) (hb : 0 < b)
    (h : signed s (a : ℤ) = signed t (b : ℤ)) : s = t ∧ a = b := by
  cases s <;> cases t <;> simp only [signed] at h
  · exact ⟨rfl, by omega⟩
  · omega
  · omega
  · exact ⟨rfl, by omega⟩

lemma signed_ne_zero (s : Sign) {a : ℕ} (ha : 0 < a) : signed s (a : ℤ) ≠ 0 := by
  cases s <;> simp only [signed] <;> omega

/-- Finite floats with the same signed rank have the same value. -/
lemma IsNumber.partsValue_eq (hu : IsNumber u) (hw : IsNumber w) (hu' : u.isFinite = true)
    (hw' : w.isFinite = true) (h : packedPlace u = packedPlace w) : partsValue u = partsValue w := by
  cases hu with
  | infinity s => cases hu'
  | zero s =>
    cases hw with
    | infinity t => cases hw'
    | zero t => rfl
    | finite t hm hcanonical hrange =>
      rw [packedPlace_zero, packedPlace_finite t hm hcanonical hrange] at h
      exact absurd h.symm (signed_ne_zero t (canonicalRank_pos hm))
  | finite s hm hcanonical hrange =>
    rw [packedPlace_finite s hm hcanonical hrange] at h
    cases hw with
    | infinity t => cases hw'
    | zero t =>
      rw [packedPlace_zero] at h
      exact absurd h (signed_ne_zero s (canonicalRank_pos hm))
    | finite t hm' hcanonical' hrange' =>
      rw [packedPlace_finite t hm' hcanonical' hrange'] at h
      obtain ⟨rfl, hrank⟩ := signed_inj (canonicalRank_pos hm) (canonicalRank_pos hm') h
      obtain ⟨rfl, rfl⟩ := canonicalRank_inj hcanonical hcanonical' hrank
      rfl

/-- The order of signed ranks is that of values. -/
lemma IsNumber.partsValue_le (hu : IsNumber u) (hw : IsNumber w) (hu' : u.isFinite = true)
    (hw' : w.isFinite = true) (h : packedPlace u ≤ packedPlace w) : partsValue u ≤ partsValue w := by
  by_contra! hlt
  have hround := signedRound_mono hlt.le
  rw [← hu.packedPlace_eq hu', ← hw.packedPlace_eq hw'] at hround
  exact hlt.ne (hu.partsValue_eq hw hu' hw' (h.antisymm hround)).symm

end Order

/-! ### Arithmetic of parts -/

section Arithmetic

variable {m : ℕ} {e : ℤ} {u w : UnpackedFloat}

lemma signed_neg (s : Sign) (v : ℚ) : signed (-s) v = -signed s v := by
  cases s with
  | positive => rfl
  | negative => exact (neg_neg v).symm

/-- A mantissa that is shifted to a lower exponent. -/
lemma decreaseExponent_value (s : Sign) (m : ℕ) {e t : ℤ} (h : t ≤ e) :
    (s.apply (decreaseExponent m e t).1 : ℚ) * 2 ^ t = signed s ((m : ℚ) * 2 ^ e) := by
  have hvalue : ((decreaseExponent m e t).1 : ℚ) * 2 ^ t = m * 2 ^ e := by
    simp only [decreaseExponent]
    rw [Nat.shiftLeft_eq]
    push_cast
    rw [mul_assoc, ← zpow_natCast, ← zpow_add₀ two_ne_zero, Int.toNat_of_nonneg (by omega)]
    congr 2
    ring
  rw [← hvalue]
  cases s with
  | positive => rfl
  | negative =>
    simp only [Sign.apply, signed, Int.cast_neg, Int.cast_natCast]
    exact neg_mul _ _

lemma packedPlace_sub (hu : IsNumber u) (hw : IsNumber w) (hu' : u.isFinite = true)
    (hw' : w.isFinite = true) :
    packedPlace (UnpackedFloat.sub Format.binary64 u w) =
      signedRound (partsValue u - partsValue w) := by
  cases hu with
  | infinity s => cases hu'
  | zero s =>
    cases hw with
    | infinity t => cases hw'
    | zero t =>
      rw [partsValue_zero, partsValue_zero, sub_zero, signedRound_zero]
      unfold UnpackedFloat.sub
      dsimp only
      split
      · exact packedPlace_zero _
      · exact packedPlace_zero _
    | finite t hm hcanonical hrange =>
      rw [partsValue_zero, partsValue_finite, zero_sub, ← signed_neg]
      exact (IsNumber.finite (-t) hm hcanonical hrange).packedPlace_eq rfl
  | finite s hm hcanonical hrange =>
    cases hw with
    | infinity t => cases hw'
    | zero t =>
      rw [partsValue_zero, sub_zero]
      exact (IsNumber.finite s hm hcanonical hrange).packedPlace_eq rfl
    | finite t hm' hcanonical' hrange' =>
      unfold UnpackedFloat.sub
      dsimp only
      rw [packedPlace_normalize, Int.cast_sub, sub_mul,
        decreaseExponent_value s _ (min_le_left _ _), decreaseExponent_value t _ (min_le_right _ _)]
      rfl

lemma packedPlace_add_zero (hu : IsNumber u) :
    packedPlace (UnpackedFloat.add Format.binary64 u (.zero .positive)) = packedPlace u := by
  cases hu with
  | infinity s => rfl
  | zero s => cases s <;> rfl
  | finite s hm hcanonical hrange => rfl

lemma mul_finite (s : Sign) {k : ℕ} (hk : 0 < k) (f : ℤ) (hm : 0 < m) (e : ℤ) :
    UnpackedFloat.mul Format.binary64 (.finite s k f hk) (.finite .positive m e hm) =
      roundWithAccuracy Format.binary64 s (k * m) (f + e) .exact := by
  cases s <;> rfl

lemma div_finite (s : Sign) {k : ℕ} (hk : 0 < k) (f : ℤ) (hm : 0 < m) (e : ℤ) :
    UnpackedFloat.div Format.binary64 (.finite s k f hk) (.finite .positive m e hm) =
      roundWithAccuracy Format.binary64 s (divCore Format.binary64 k f m e).1
        (divCore Format.binary64 k f m e).2.1 (divCore Format.binary64 k f m e).2.2 := by
  cases s <;> rfl

lemma signed_mul (s : Sign) (v w : ℚ) : signed s v * w = signed s (v * w) := by
  cases s with
  | positive => rfl
  | negative => exact neg_mul v w

lemma signed_div (s : Sign) (v w : ℚ) : signed s v / w = signed s (v / w) := by
  cases s with
  | positive => rfl
  | negative => exact neg_div w v

lemma packedPlace_mul (hu : IsNumber u) (hu' : u.isFinite = true) (hm : 0 < m)
    (h : Canonical m e) :
    packedPlace (UnpackedFloat.mul Format.binary64 u (.finite .positive m e hm)) =
      signedRound (partsValue u * (m * 2 ^ e)) := by
  cases hu with
  | infinity s => cases hu'
  | zero s =>
    rw [partsValue_zero, zero_mul]
    exact packedPlace_zero _
  | finite s hk hcanonical hrange =>
    have hpositive := packedPlace_of_packedRank (by positivity)
      (packedRank_mul hk hm (le_unitExponent_mul hk hm hcanonical h))
    rw [partsValue_finite, signed_mul, ← signed_signedRound, ← hpositive, mul_finite, mul_finite]
    exact packedPlace_roundWithAccuracy ..

lemma packedPlace_div (hu : IsNumber u) (hu' : u.isFinite = true) (hm : 0 < m) (e : ℤ) :
    packedPlace (UnpackedFloat.div Format.binary64 u (.finite .positive m e hm)) =
      signedRound (partsValue u / (m * 2 ^ e)) := by
  cases hu with
  | infinity s => cases hu'
  | zero s =>
    rw [partsValue_zero, zero_div]
    exact packedPlace_zero _
  | @finite k f s hk hcanonical hrange =>
    have hpositive := packedPlace_of_packedRank (by positivity) (packedRank_div hk hm f e)
    rw [partsValue_finite, signed_div, ← signed_signedRound, ← hpositive, div_finite, div_finite]
    exact packedPlace_roundWithAccuracy ..

end Arithmetic

/-! ### Floats by signed rank -/

section Floats

/-- The place of a float among all that are numbers. -/
def signedRank (x : Float) : ℤ := place (rank x)

/-- The value of a finite float. -/
def value (x : Float) : ℚ := partsValue x.toModel.unpack

variable {x y : Float}

lemma isNumber_of_isNaN (h : x.isNaN = false) :
    IsNumber x.toModel.unpack ∧ packedPlace x.toModel.unpack = signedRank x := by
  obtain ⟨hnan, -⟩ | hnumber := unpack_cases x.toModel.toBits.toBitVec
  · have hisNaN : x.isNaN = x.toModel.unpack.isNaN := rfl
    rw [hisNaN, Float.Model.unpack, hnan] at h
    cases h
  · exact hnumber

lemma isNumber_of_isFinite (h : x.isFinite = true) :
    IsNumber x.toModel.unpack ∧ packedPlace x.toModel.unpack = signedRank x :=
  isNumber_of_isNaN (isNaN_of_isFinite h)

lemma isNaN_of_signedRank (h : |signedRank x| ≤ infinityRank) : x.isNaN = false := by
  have hisNaN : x.isNaN = (UnpackedFloat.unpack Format.binary64 x.toModel.toBits.toBitVec).isNaN :=
    rfl
  rw [hisNaN]
  obtain ⟨-, hrank⟩ | ⟨hnumber, -⟩ := unpack_cases x.toModel.toBits.toBitVec
  · exact absurd h (not_le.2 hrank)
  · generalize UnpackedFloat.unpack Format.binary64 _ = u at hnumber
    cases hnumber <;> rfl

lemma compare_eq (hx : x.isNaN = false) (hy : y.isNaN = false) :
    x.toModel.unpack.compare y.toModel.unpack = some (compare (signedRank x) (signedRank y)) := by
  obtain ⟨hx, hplace⟩ := isNumber_of_isNaN hx
  obtain ⟨hy, hplace'⟩ := isNumber_of_isNaN hy
  rw [hx.compare_eq hy, hplace, hplace']

lemma le_iff_signedRank (hx : x.isNaN = false) (hy : y.isNaN = false) :
    x ≤ y ↔ signedRank x ≤ signedRank y := by
  rw [le_iff_unpack, UnpackedFloat.le, compare_eq hx hy, Option.any_some]
  exact Std.isLE_compare

lemma lt_iff_signedRank (hx : x.isNaN = false) (hy : y.isNaN = false) :
    x < y ↔ signedRank x < signedRank y := by
  rw [lt_iff_unpack, UnpackedFloat.lt, compare_eq hx hy, beq_iff_eq, Option.some_inj]
  exact compare_lt_iff_lt

lemma float_le_trans {z : Float} (hxy : x ≤ y) (hyz : y ≤ z) : x ≤ z := by
  obtain ⟨hx, hy⟩ := isNaN_of_le hxy
  obtain ⟨-, hz⟩ := isNaN_of_le hyz
  rw [le_iff_signedRank hx hy] at hxy
  rw [le_iff_signedRank hy hz] at hyz
  exact (le_iff_signedRank hx hz).2 (hxy.trans hyz)

lemma float_lt_of_lt_of_le {z : Float} (hxy : x < y) (hyz : y ≤ z) : x < z := by
  obtain ⟨hx, hy⟩ := isNaN_of_lt hxy
  obtain ⟨-, hz⟩ := isNaN_of_le hyz
  rw [lt_iff_signedRank hx hy] at hxy
  rw [le_iff_signedRank hy hz] at hyz
  exact (lt_iff_signedRank hx hz).2 (hxy.trans_le hyz)

lemma signedRank_neg (hx : x.isNaN = false) : signedRank (-x) = -signedRank x := by
  obtain ⟨hnumber, hplace⟩ := isNumber_of_isNaN hx
  have hneg : signedRank (-x) = packedPlace x.toModel.unpack.neg := rfl
  rw [hneg, hnumber.neg.2, hplace]

lemma isFinite_or_isInf (hx : x.isNaN = false) :
    x.isFinite = true ∨ x.isInf = true ∧ |signedRank x| = infinityRank := by
  obtain ⟨hnumber, hplace⟩ := isNumber_of_isNaN hx
  rw [← hplace]
  exact hnumber.isFinite_or_isInf

lemma abs_signedRank_lt (hx : x.isFinite = true) : |signedRank x| < infinityRank := by
  obtain ⟨hnumber, hplace⟩ := isNumber_of_isFinite hx
  rw [← hplace]
  exact hnumber.abs_packedPlace_lt hx

lemma abs_signedRank_le (hx : x.isNaN = false) : |signedRank x| ≤ infinityRank := by
  obtain hfinite | ⟨-, hrank⟩ := isFinite_or_isInf hx
  · exact (abs_signedRank_lt hfinite).le
  · exact hrank.le

lemma isFinite_of_signedRank (h : |signedRank x| < infinityRank) : x.isFinite = true := by
  obtain hfinite | ⟨-, hrank⟩ := isFinite_or_isInf (isNaN_of_signedRank h.le)
  · exact hfinite
  · exact absurd hrank h.ne

lemma float_neg_le_neg (h : x ≤ y) : -y ≤ -x := by
  obtain ⟨hx, hy⟩ := isNaN_of_le h
  have hneg {z : Float} (hz : z.isNaN = false) : (-z).isNaN = false := by
    apply isNaN_of_signedRank
    rw [signedRank_neg hz, abs_neg]
    exact abs_signedRank_le hz
  rw [le_iff_signedRank hx hy] at h
  rw [le_iff_signedRank (hneg hy) (hneg hx), signedRank_neg hx, signedRank_neg hy]
  exact neg_le_neg h

lemma signedRank_eq_signedRound (hx : x.isFinite = true) : signedRank x = signedRound (value x) := by
  obtain ⟨hnumber, hplace⟩ := isNumber_of_isFinite hx
  rw [← hplace]
  exact hnumber.packedPlace_eq hx

lemma value_le (hx : x.isFinite = true) (hy : y.isFinite = true)
    (h : signedRank x ≤ signedRank y) : value x ≤ value y := by
  obtain ⟨hnumber, hplace⟩ := isNumber_of_isFinite hx
  obtain ⟨hnumber', hplace'⟩ := isNumber_of_isFinite hy
  rw [← hplace, ← hplace'] at h
  exact hnumber.partsValue_le hnumber' hx hy h

/-- An operation on floats that rounds an exact one and keeps infinite operands. -/
structure Rounds (f : Float → Float) (g : ℚ → ℚ) : Prop where
  finite : ∀ x, x.isFinite = true → signedRank (f x) = signedRound (g (value x))
  infinite : ∀ x, x.isInf = true → signedRank (f x) = signedRank x

namespace Rounds

variable {f : Float → Float} {g : ℚ → ℚ}

lemma abs_signedRank_le (h : Rounds f g) (hx : x.isNaN = false) : |signedRank (f x)| ≤ infinityRank := by
  obtain hfinite | ⟨hinf, hrank⟩ := isFinite_or_isInf hx
  · rw [h.finite x hfinite]
    exact abs_signedRound_le _
  · rw [h.infinite x hinf, hrank]

lemma isNaN_eq (h : Rounds f g) (hx : x.isNaN = false) : (f x).isNaN = false :=
  isNaN_of_signedRank (h.abs_signedRank_le hx)

/-- An operation that keeps the order of exact numbers keeps that of floats. -/
theorem monotone (h : Rounds f g) (hg : Monotone g) (hle : x ≤ y) : f x ≤ f y := by
  obtain ⟨hx, hy⟩ := isNaN_of_le hle
  rw [le_iff_signedRank hx hy] at hle
  rw [le_iff_signedRank (h.isNaN_eq hx) (h.isNaN_eq hy)]
  have hlow := (abs_le.1 (h.abs_signedRank_le hy)).1
  have hhigh := (abs_le.1 (h.abs_signedRank_le hx)).2
  obtain hx' | ⟨hx', hrank⟩ := isFinite_or_isInf hx
  · obtain hy' | ⟨hy', hrank⟩ := isFinite_or_isInf hy
    · rw [h.finite x hx', h.finite y hy']
      exact signedRound_mono (hg (value_le hx' hy' hle))
    · -- Above a finite number only the upper one is infinite.
      have hfinite := (abs_lt.1 (abs_signedRank_lt hx')).1
      have hends := eq_or_eq_neg_of_abs_eq hrank
      rw [h.infinite y hy']
      omega
  · have hends := eq_or_eq_neg_of_abs_eq hrank
    rw [h.infinite x hx']
    obtain hy' | ⟨hy', hrank'⟩ := isFinite_or_isInf hy
    · have hfinite := (abs_lt.1 (abs_signedRank_lt hy')).2
      omega
    · rwa [h.infinite y hy']

end Rounds

lemma exists_infinity (hx : x.isInf = true) :
    ∃ s, x.toModel.unpack = .infinity s ∧ signedRank x = packedPlace (.infinity s) := by
  have hinf : x.toModel.unpack.isInf = true := hx
  have hnumber (hnan : x.isNaN = false) := (isNumber_of_isNaN hnan).2
  have hisNaN : x.isNaN = x.toModel.unpack.isNaN := rfl
  rw [hisNaN] at hnumber
  generalize x.toModel.unpack = u at hinf hnumber ⊢
  cases u with
  | infinity s => exact ⟨s, rfl, (hnumber rfl).symm⟩
  | notANumber | zero | finite => cases hinf

/-- A positive finite float in its parts. -/
lemma exists_positive (hy : y.isFinite = true) (hpos : 0 < signedRank y) :
    ∃ m e, ∃ hm : 0 < m, Canonical m e ∧ y.toModel.unpack = .finite .positive m e hm ∧
      value y = m * 2 ^ e := by
  obtain ⟨hnumber, hplace⟩ := isNumber_of_isFinite hy
  change y.toModel.unpack.isFinite = true at hy
  rw [← hplace] at hpos
  unfold value
  generalize y.toModel.unpack = u at hnumber hy hpos ⊢
  cases hnumber with
  | infinity s => cases hy
  | zero s =>
    rw [packedPlace_zero] at hpos
    exact absurd hpos (lt_irrefl 0)
  | finite s hm hcanonical hrange =>
    rw [packedPlace_finite s hm hcanonical hrange] at hpos
    cases s with
    | positive => exact ⟨_, _, hm, hcanonical, rfl, rfl⟩
    | negative =>
      rw [signed_negative, neg_pos] at hpos
      exact absurd hpos (not_lt.2 (Int.natCast_nonneg _))

/-- An operation is told by what it does to the parts of its operand. -/
lemma rounds_of_parts {f : Float → Float} {g : ℚ → ℚ} (op : UnpackedFloat → UnpackedFloat)
    (hrank : ∀ x, signedRank (f x) = packedPlace (op x.toModel.unpack))
    (hfinite : ∀ u, IsNumber u → u.isFinite = true →
      packedPlace (op u) = signedRound (g (partsValue u)))
    (hinfinite : ∀ s, op (.infinity s) = .infinity s) : Rounds f g := by
  constructor
  · intro x hx
    rw [hrank]
    exact hfinite _ (isNumber_of_isFinite hx).1 hx
  · intro x hx
    obtain ⟨s, hs, hplace⟩ := exists_infinity hx
    rw [hrank, hs, hinfinite, hplace]

/-- Subtracting a finite float. -/
lemma rounds_sub (hy : y.isFinite = true) : Rounds (· - y) (· - value y) := by
  have hnumber := (isNumber_of_isFinite hy).1
  apply rounds_of_parts fun u => UnpackedFloat.sub Format.binary64 u y.toModel.unpack
  · exact fun _ => rfl
  · exact fun u hu hu' => packedPlace_sub hu hnumber hu' hy
  · intro s
    change y.toModel.unpack.isFinite = true at hy
    generalize y.toModel.unpack = w at hnumber hy
    cases hnumber with
    | infinity t => cases hy
    | zero t => rfl
    | finite t hm hcanonical hrange => rfl

/-- Multiplying by a positive finite float. -/
lemma rounds_mul (hy : y.isFinite = true) (hpos : 0 < signedRank y) :
    Rounds (· * y) (· * value y) := by
  obtain ⟨m, e, hm, hcanonical, hunpack, hvalue⟩ := exists_positive hy hpos
  apply rounds_of_parts fun u => UnpackedFloat.mul Format.binary64 u y.toModel.unpack
  · exact fun _ => rfl
  · intro u hu hu'
    rw [hunpack, hvalue]
    exact packedPlace_mul hu hu' hm hcanonical
  · intro s
    rw [hunpack]
    cases s <;> rfl

/-- Dividing by a positive finite float. -/
lemma rounds_div (hy : y.isFinite = true) (hpos : 0 < signedRank y) :
    Rounds (· / y) (· / value y) := by
  obtain ⟨m, e, hm, hcanonical, hunpack, hvalue⟩ := exists_positive hy hpos
  apply rounds_of_parts fun u => UnpackedFloat.div Format.binary64 u y.toModel.unpack
  · exact fun _ => rfl
  · intro u hu hu'
    rw [hunpack, hvalue]
    exact packedPlace_div hu hu' hm e
  · intro s
    rw [hunpack]
    cases s <;> rfl

lemma value_pos (hy : y.isFinite = true) (hpos : 0 < signedRank y) : 0 < value y := by
  obtain ⟨m, e, hm, -, -, hvalue⟩ := exists_positive hy hpos
  rw [hvalue]
  positivity

section Monotone

variable {z : Float}

theorem float_sub_mono (hz : z.isFinite = true) (h : x ≤ y) : x - z ≤ y - z :=
  (rounds_sub hz).monotone (fun _ _ hle => sub_le_sub_right hle _) h

theorem float_mul_mono (hz : z.isFinite = true) (hpos : 0 < signedRank z) (h : x ≤ y) :
    x * z ≤ y * z :=
  (rounds_mul hz hpos).monotone
    (fun _ _ hle => mul_le_mul_of_nonneg_right hle (value_pos hz hpos).le) h

theorem float_div_mono (hz : z.isFinite = true) (hpos : 0 < signedRank z) (h : x ≤ y) :
    x / z ≤ y / z :=
  (rounds_div hz hpos).monotone
    (fun _ _ hle => div_le_div_of_nonneg_right hle (value_pos hz hpos).le) h

end Monotone

end Floats

end LoadTest.Proofs
