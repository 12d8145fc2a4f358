import LoadTest.Proofs.DecimalRounding
import LoadTest.Proofs.ReportOrder

/-!
# The shortest decimals of floats

The numbers that are rounded to a float form an interval around it, its basin. A decimal of
seventeen digits always lies in it, because the decimals of that length stand closer together than
the ends of the basin. Whatever decimal of the basin is written, and with however many zeros, the
float is read back from it.
-/

namespace LoadTest.Proofs

open Decimal Float.Model Float.Model.UnpackedFloat

/-! ### Basins -/

section Basins

variable {x : BinaryFraction} {v : ℚ}

/-- The numbers between the ends of a float's basin, the ends included if the mantissa is even. -/
structure InBasin (x : BinaryFraction) (v : ℚ) : Prop where
  low_le : (basin x).low * 2 ^ x.exponent / 4 ≤ v
  le_high : v ≤ (basin x).high * 2 ^ x.exponent / 4
  inside : (basin x).closed = false →
    (basin x).low * 2 ^ x.exponent / 4 < v ∧ v < (basin x).high * 2 ^ x.exponent / 4

lemma zpow_mul_pow_toNat {b : ℚ} (hb : b ≠ 0) (e : ℤ) : b ^ e * b ^ (-e).toNat = b ^ e.toNat := by
  rw [← zpow_natCast, ← zpow_natCast, ← zpow_add₀ hb]
  congr 1
  omega

/-- The comparison in natural numbers is the one of the decimal with the binary number. -/
lemma compareWith_eq (candidate : ℕ) (exponent : ℤ) (quarters : ℕ) (binary : ℤ) :
    compareWith candidate exponent quarters binary =
      compare ((candidate : ℚ) * 10 ^ exponent) (quarters * 2 ^ binary / 4) := by
  have hscale : (0 : ℚ) < 4 * 2 ^ (-binary).toNat * 10 ^ (-exponent).toNat := by positivity
  have hten : (10 : ℚ) ^ exponent * 10 ^ (-exponent).toNat = 10 ^ exponent.toNat :=
    zpow_mul_pow_toNat (by norm_num) exponent
  have htwo : (2 : ℚ) ^ binary * 2 ^ (-binary).toNat = 2 ^ binary.toNat :=
    zpow_mul_pow_toNat two_ne_zero binary
  have hleft : (candidate : ℚ) * 10 ^ exponent *
      (4 * 2 ^ (-binary).toNat * 10 ^ (-exponent).toNat) =
      (candidate * Nat.pow 10 exponent.toNat * 4 * Nat.pow 2 (-binary).toNat : ℕ) := by
    push_cast
    rw [Nat.pow_eq, Nat.pow_eq]
    push_cast
    rw [← hten]
    ring
  have hright : (quarters : ℚ) * 2 ^ binary / 4 *
      (4 * 2 ^ (-binary).toNat * 10 ^ (-exponent).toNat) =
      (quarters * Nat.pow 2 binary.toNat * Nat.pow 10 (-exponent).toNat : ℕ) := by
    push_cast
    rw [Nat.pow_eq, Nat.pow_eq]
    push_cast
    rw [← htwo]
    ring
  unfold compareWith
  generalize (candidate : ℚ) * 10 ^ exponent = decimal at hleft
  generalize (quarters : ℚ) * 2 ^ binary / 4 = fraction at hright
  generalize candidate * Nat.pow 10 exponent.toNat * 4 * Nat.pow 2 (-binary).toNat = left at hleft
  generalize quarters * Nat.pow 2 binary.toNat * Nat.pow 10 (-exponent).toNat = right at hright
  obtain hlt | heq | hgt := lt_trichotomy decimal fraction
  · rw [compare_lt_iff_lt.2 hlt, compare_lt_iff_lt]
    rw [← mul_lt_mul_iff_left₀ hscale, hleft, hright] at hlt
    exact_mod_cast hlt
  · rw [compare_eq_iff_eq.2 heq, compare_eq_iff_eq]
    rw [heq, hright] at hleft
    exact_mod_cast hleft.symm
  · rw [compare_gt_iff_gt.2 hgt, compare_gt_iff_gt]
    rw [← mul_lt_mul_iff_left₀ hscale, hleft, hright] at hgt
    exact_mod_cast hgt

lemma inBasin_of_fits {c : ℕ} {e : ℤ} (h : inBasin (basin x) x.exponent c e = true) :
    InBasin x (c * 10 ^ e) := by
  simp only [inBasin, compareWith_eq] at h
  split at h
  · next hclosed =>
    rw [Bool.and_eq_true, bne_iff_ne, bne_iff_ne, Ne, Ne, compare_lt_iff_lt, compare_gt_iff_gt] at h
    exact ⟨not_lt.1 h.1, not_lt.1 h.2, fun hopen => absurd (hclosed.symm.trans hopen) nofun⟩
  · rw [Bool.and_eq_true, beq_iff_eq, beq_iff_eq, compare_gt_iff_gt, compare_lt_iff_lt] at h
    exact ⟨h.1.le, h.2.le, fun _ => h⟩

/-- Between the ends of the basin every decimal fits. -/
lemma fits_of_inside {c : ℕ} {e : ℤ} (hlow : (basin x).low * 2 ^ x.exponent / 4 < (c : ℚ) * 10 ^ e)
    (hhigh : (c : ℚ) * 10 ^ e < (basin x).high * 2 ^ x.exponent / 4) :
    inBasin (basin x) x.exponent c e = true := by
  simp only [inBasin, compareWith_eq]
  rw [compare_gt_iff_gt.2 hlow, compare_lt_iff_lt.2 hhigh]
  split <;> rfl

lemma cast_low (hm : 0 < x.mantissa) : ((basin x).low : ℚ) =
    4 * x.mantissa - if x.mantissa = 2 ^ 52 ∧ -1074 < x.exponent then 1 else 2 := by
  have hlow : (basin x).low = if x.mantissa = 2 ^ 52 ∧ -1074 < x.exponent then 4 * x.mantissa - 1
      else 4 * x.mantissa - 2 := rfl
  rw [hlow]
  split_ifs
  · rw [Nat.cast_sub (by omega)]
    push_cast
    ring
  · rw [Nat.cast_sub (by omega)]
    push_cast
    ring

lemma cast_high (x : BinaryFraction) : ((basin x).high : ℚ) = 4 * x.mantissa + 2 := by
  simp [basin]

/-- In units of the last place, the basin reaches half a unit to both sides, or a quarter below the
least mantissa of an exponent. -/
lemma InBasin.units (hm : 0 < x.mantissa) (h : InBasin x v) :
    (x.mantissa - 1 / 2 : ℚ) ≤ v / 2 ^ x.exponent ∧ v / 2 ^ x.exponent ≤ x.mantissa + 1 / 2 ∧
      (x.mantissa % 2 = 1 →
        (x.mantissa - 1 / 2 : ℚ) < v / 2 ^ x.exponent ∧ v / 2 ^ x.exponent < x.mantissa + 1 / 2) ∧
      (x.mantissa = 2 ^ 52 → -1074 < x.exponent →
        (x.mantissa - 1 / 4 : ℚ) ≤ v / 2 ^ x.exponent) := by
  have hunit : (0 : ℚ) < 2 ^ x.exponent := by positivity
  obtain ⟨hlow, hhigh, hinside⟩ := h
  rw [cast_low hm, cast_high] at hinside
  rw [cast_low hm] at hlow
  rw [cast_high] at hhigh
  have hlow' :
      (4 * x.mantissa - (if x.mantissa = 2 ^ 52 ∧ -1074 < x.exponent then 1 else 2) : ℚ) / 4 ≤
        v / 2 ^ x.exponent := by
    rw [le_div_iff₀ hunit]
    linarith
  have hhigh' : v / 2 ^ x.exponent ≤ x.mantissa + 1 / 2 := by
    rw [div_le_iff₀ hunit]
    linarith
  have hhalf : (x.mantissa - 1 / 2 : ℚ) ≤ v / 2 ^ x.exponent := by
    split_ifs at hlow' <;> linarith
  refine ⟨hhalf, hhigh', ?_, ?_⟩
  · intro hodd
    obtain ⟨hlow, hhigh⟩ := hinside (by simp [basin, hodd])
    rw [if_neg (by rintro ⟨heq, -⟩; omega)] at hlow
    rw [lt_div_iff₀ hunit, div_lt_iff₀ hunit]
    constructor <;> linarith
  · intro hleast hnormal
    rw [if_pos ⟨hleast, hnormal⟩] at hlow'
    linarith

/-- A number within half a unit of a whole number is rounded to it. -/
lemma nearestEven_eq {u : ℚ} {m : ℕ} (hm : 0 < m) (hlow : (m - 1 / 2 : ℚ) ≤ u)
    (hhigh : u ≤ m + 1 / 2) (hodd : m % 2 = 1 → (m - 1 / 2 : ℚ) < u ∧ u < m + 1 / 2) :
    nearestEven u = m := by
  have hone : (1 : ℚ) ≤ m := by exact_mod_cast hm
  unfold nearestEven
  obtain hle | hlt := le_or_gt (m : ℚ) u
  · have hfloor : ⌊u⌋₊ = m := (Nat.floor_eq_iff (by linarith)).2 ⟨hle, by linarith⟩
    rw [hfloor]
    split_ifs with hbelow habove
    · rfl
    · linarith
    · have heven : ¬m % 2 = 1 := fun h => hbelow (by linarith [(hodd h).2])
      omega
  · have hfloor : ⌊u⌋₊ = m - 1 := by
      rw [Nat.floor_eq_iff (by linarith), Nat.cast_sub hm]
      push_cast
      constructor <;> linarith
    rw [hfloor, Nat.cast_sub hm, Nat.cast_one]
    split_ifs with hbelow habove
    · linarith
    · omega
    · have heven : ¬m % 2 = 1 := fun h => habove (by linarith [(hodd h).1])
      omega

lemma roundedRank_of_unit (hm : 0 < x.mantissa) (h : InBasin x v)
    (hunit : unitExponent v = x.exponent) :
    roundedRank v = canonicalRank x.mantissa x.exponent := by
  obtain ⟨hlow, hhigh, hodd, -⟩ := h.units hm
  unfold roundedRank canonicalRank
  rw [hunit, nearestEven_eq hm hlow hhigh hodd]

lemma InBasin.pos (hm : 0 < x.mantissa) (h : InBasin x v) : 0 < v := by
  have hone : (1 : ℚ) ≤ x.mantissa := by exact_mod_cast hm
  have hquotient : 0 < v / 2 ^ x.exponent := by linarith [(h.units hm).1]
  exact (div_pos_iff_of_pos_right (by positivity)).1 hquotient

/-- The units of the numbers in a basin are no greater than that of the float. -/
lemma InBasin.unitExponent_le (hm : 0 < x.mantissa) (hx : Canonical x.mantissa x.exponent)
    (h : InBasin x v) : unitExponent v ≤ x.exponent := by
  have hlt : (x.mantissa : ℚ) + 1 ≤ 2 ^ 53 := by exact_mod_cast hx.mantissa_lt
  have hbound : v < (2 : ℕ) ^ (x.exponent + 53) := by
    have hhigh := (h.units hm).2.1
    rw [div_le_iff₀ (by positivity)] at hhigh
    push_cast
    rw [zpow_add₀ two_ne_zero, mul_comm]
    have hunit : (0 : ℚ) < 2 ^ x.exponent := by positivity
    calc v ≤ (x.mantissa + 1 / 2) * 2 ^ x.exponent := hhigh
      _ < 2 ^ (53 : ℤ) * 2 ^ x.exponent := by
        apply mul_lt_mul_of_pos_right _ hunit
        norm_num at hlt ⊢
        linarith
  rw [Int.lt_zpow_iff_log_lt (by decide) (h.pos hm)] at hbound
  have hleast := hx.least_le
  unfold unitExponent
  omega

/-- A number in the basin of a float is rounded to the float. -/
theorem roundedRank_of_inBasin (hm : 0 < x.mantissa) (hx : Canonical x.mantissa x.exponent)
    (h : InBasin x v) : roundedRank v = canonicalRank x.mantissa x.exponent := by
  have hle := h.unitExponent_le hm hx
  have hge := unitExponent_ge v
  have hleast := hx.least_le
  obtain ⟨hlow, hhigh, hodd, hnarrow⟩ := h.units hm
  have hunit : (0 : ℚ) < 2 ^ x.exponent := by positivity
  by_cases hbelow : unitExponent v = x.exponent
  · exact roundedRank_of_unit hm h hbelow
  · -- The number has a smaller unit than the float, which is then the least one of its exponent.
    have hnormal : 2 ^ 52 ≤ x.mantissa := hx.normal.resolve_right (by omega)
    have hlt : v / 2 ^ x.exponent < (2 ^ 52 : ℕ) := by
      by_contra! hge
      rw [le_div_iff₀ hunit] at hge
      have hmono := unitExponent_mono (by positivity) hge
      rw [unitExponent_canonical (by decide) ⟨by decide, hleast, .inl le_rfl⟩] at hmono
      omega
    have hpower : x.mantissa = 2 ^ 52 := by
      have hclose : (x.mantissa : ℚ) < (2 ^ 52 + 1 : ℕ) := by
        push_cast at hlt ⊢
        linarith
      have hclose : x.mantissa < 2 ^ 52 + 1 := by exact_mod_cast hclose
      omega
    have hquarter := hnarrow hpower (by omega)
    rw [hpower] at hquarter
    have hhalves : v / 2 ^ (x.exponent - 1) = 2 * (v / 2 ^ x.exponent) := by
      rw [zpow_sub_one₀ two_ne_zero]
      field_simp
    have hunit' : unitExponent v = x.exponent - 1 := by
      have hhalf : ((2 ^ 52 : ℕ) : ℚ) * 2 ^ (x.exponent - 1) ≤ v := by
        rw [← le_div_iff₀ (by positivity), hhalves]
        push_cast at hquarter ⊢
        linarith
      have hmono := unitExponent_mono (by positivity) hhalf
      rw [unitExponent_canonical (by decide) ⟨by decide, by omega, .inl le_rfl⟩] at hmono
      omega
    have hnearest : nearestEven (v / 2 ^ (x.exponent - 1)) = 2 ^ 53 := by
      rw [hhalves]
      push_cast at hquarter hlt
      refine nearestEven_eq (by decide) ?_ ?_ (fun hodd => absurd hodd (by decide))
      · push_cast
        linarith
      · push_cast
        linarith
    unfold roundedRank canonicalRank
    rw [hunit', hnearest, hpower]
    omega

end Basins

/-! ### The search for digits -/

section Search

variable {x : BinaryFraction}

lemma scaled_one (x : BinaryFraction) : 0 < (x.scaled 1).2 ∧
    ((x.scaled 1).1 : ℚ) / (x.scaled 1).2 = x.mantissa * 2 ^ x.exponent := by
  have hscale := zpow_mul_pow_toNat (b := 2) two_ne_zero x.exponent
  simp only [BinaryFraction.scaled, Nat.shiftLeft_eq, mul_one, one_mul]
  refine ⟨by positivity, ?_⟩
  push_cast
  rw [div_eq_iff (by positivity), mul_assoc, hscale]

lemma pow_leadingExponent_le (hm : 0 < x.mantissa) :
    (10 : ℚ) ^ leadingExponent x ≤ x.mantissa * 2 ^ x.exponent := by
  obtain ⟨hden, hvalue⟩ := scaled_one x
  have hpos : (0 : ℚ) < x.mantissa * 2 ^ x.exponent := by positivity
  rw [← hvalue] at hpos ⊢
  unfold leadingExponent
  generalize x.scaled 1 = quotient at hden hpos
  obtain ⟨num, den⟩ := quotient
  dsimp only at hden hpos ⊢
  have hden' : (0 : ℚ) < den := by exact_mod_cast hden
  have hnum : 0 < num := by exact_mod_cast (div_pos_iff_of_pos_right hden').1 hpos
  split_ifs with hwhole hexact
  · have hquotient : 0 < num / den := Nat.div_pos hwhole hden
    have hwidth : 0 < width (num / den) := List.length_pos_iff.2 Nat.toDigits_ne_nil
    have hpower : ((width (num / den) : ℤ) - 1) = (width (num / den) - 1 : ℕ) := by omega
    rw [hpower, zpow_natCast]
    calc (10 : ℚ) ^ (width (num / den) - 1) ≤ (num / den : ℕ) := by
          exact_mod_cast pow_width_le hquotient
      _ ≤ num / den := Nat.cast_div_le
  · have hwidth : 0 < width (den / num) := List.length_pos_iff.2 Nat.toDigits_ne_nil
    have hpower : (1 - (width (den / num) : ℤ)) = -(width (den / num) - 1 : ℕ) := by omega
    rw [hpower, zpow_neg, zpow_natCast, inv_le_comm₀ (by positivity) hpos, inv_div,
      div_le_iff₀ (by positivity), mul_comm]
    exact_mod_cast hexact
  · rw [zpow_neg, zpow_natCast, inv_le_comm₀ (by positivity) hpos, inv_div,
      div_le_iff₀ (by positivity)]
    have hlt : den < 10 ^ width (den / num) * num := by
      rw [← Nat.div_lt_iff_lt_mul hnum]
      exact lt_pow_width (den / num)
    exact_mod_cast hlt.le

/-- The number of steps of size `10 ^ exponent` that fit into a float. -/
lemma steps_eq_floor (x : BinaryFraction) (exponent : ℤ) :
    (x.scaled 1).1 * Nat.pow 10 (-exponent).toNat / ((x.scaled 1).2 * Nat.pow 10 exponent.toNat) =
      ⌊(x.mantissa * 2 ^ x.exponent : ℚ) / 10 ^ exponent⌋₊ := by
  obtain ⟨hden, hvalue⟩ := scaled_one x
  have hden' : ((x.scaled 1).2 : ℚ) ≠ 0 := by exact_mod_cast hden.ne'
  have hscale := zpow_mul_pow_toNat (b := 10) (by norm_num) exponent
  rw [← Nat.floor_div_eq_div (K := ℚ), ← hvalue, Nat.pow_eq, Nat.pow_eq]
  push_cast
  rw [← hscale]
  congr 1
  field_simp

lemma ofPlaces?_some {places : ℕ} {d : Decimal} (h : ofPlaces? x places = some d) :
    d.negative = x.negative ∧ InBasin x (d.coefficient * 10 ^ d.exponent) := by
  unfold ofPlaces? at h
  obtain ⟨coefficient, hpick, rfl⟩ := Option.map_eq_some_iff.1 h
  refine ⟨rfl, inBasin_of_fits ?_⟩
  dsimp only at hpick ⊢
  split at hpick
  · next hbelow habove =>
    cases hpick
    split <;> assumption
  · next hbelow habove =>
    cases hpick
    exact hbelow
  · next hbelow habove =>
    cases hpick
    exact habove
  · cases hpick

lemma isSome_ofPlaces? {places steps : ℕ} {exponent : ℤ}
    (hexponent : exponent = leadingExponent x - places + 1)
    (hsteps : steps = ⌊(x.mantissa * 2 ^ x.exponent : ℚ) / 10 ^ exponent⌋₊)
    (h : inBasin (basin x) x.exponent steps exponent = true ∨
      inBasin (basin x) x.exponent (steps + 1) exponent = true) :
    (ofPlaces? x places).isSome = true := by
  rw [← steps_eq_floor] at hsteps
  subst hsteps hexponent
  unfold ofPlaces?
  dsimp only
  rw [Option.isSome_map]
  split
  · rfl
  · rfl
  · rfl
  · next hbelow habove =>
    rw [hbelow, habove] at h
    simp at h

/-- Decimals of seventeen digits stand closer together than the ends of the basin. -/
lemma step_lt_basin (hm : 0 < x.mantissa) (hx : Canonical x.mantissa x.exponent) :
    (10 : ℚ) ^ (leadingExponent x - 16) <
      (basin x).high * 2 ^ x.exponent / 4 - (basin x).low * 2 ^ x.exponent / 4 := by
  have hleading := pow_leadingExponent_le hm
  have hunit : (0 : ℚ) < 2 ^ x.exponent := by positivity
  have hstep : (10 : ℚ) ^ (leadingExponent x - 16) * 10 ^ 16 = 10 ^ leadingExponent x := by
    rw [← zpow_natCast, ← zpow_add₀ (by norm_num)]
    congr 1
    omega
  have hlt : (x.mantissa : ℚ) ≤ 2 ^ 53 := by exact_mod_cast hx.mantissa_lt.le
  rw [cast_high, cast_low hm]
  split_ifs with hnarrow
  · rw [hnarrow.1] at hleading
    push_cast at hleading
    norm_num at hleading hstep ⊢
    linarith
  · have hbound : (x.mantissa : ℚ) * 2 ^ x.exponent ≤ 2 ^ 53 * 2 ^ x.exponent :=
      mul_le_mul_of_nonneg_right hlt hunit.le
    norm_num at hbound hstep ⊢
    linarith

/-- Seventeen digits suffice. -/
lemma isSome_ofPlaces?_seventeen (hm : 0 < x.mantissa) (hx : Canonical x.mantissa x.exponent) :
    (ofPlaces? x 17).isSome = true := by
  have hstep := step_lt_basin hm hx
  have hunit : (0 : ℚ) < 2 ^ x.exponent := by positivity
  obtain ⟨exponent, hexponent⟩ : ∃ exponent, exponent = leadingExponent x - 16 := ⟨_, rfl⟩
  rw [← hexponent] at hstep
  have hten : (0 : ℚ) < 10 ^ exponent := by positivity
  obtain ⟨steps, hsteps⟩ :
      ∃ steps, steps = ⌊(x.mantissa * 2 ^ x.exponent : ℚ) / 10 ^ exponent⌋₊ := ⟨_, rfl⟩
  have hplaces : exponent = leadingExponent x - (17 : ℕ) + 1 := by omega
  refine isSome_ofPlaces? hplaces hsteps ?_
  have hbelow : (steps : ℚ) * 10 ^ exponent ≤ x.mantissa * 2 ^ x.exponent := by
    rw [← le_div_iff₀ hten, hsteps]
    exact Nat.floor_le (by positivity)
  have habove : (x.mantissa : ℚ) * 2 ^ x.exponent < (steps + 1 : ℕ) * 10 ^ exponent := by
    rw [← div_lt_iff₀ hten, hsteps]
    push_cast
    exact Nat.lt_floor_add_one _
  have hhigh : (x.mantissa : ℚ) * 2 ^ x.exponent < (basin x).high * 2 ^ x.exponent / 4 := by
    rw [cast_high]
    linarith
  have hlow : (basin x).low * 2 ^ x.exponent / 4 < (x.mantissa : ℚ) * 2 ^ x.exponent := by
    rw [cast_low hm]
    split_ifs <;> linarith
  by_cases hfits : (basin x).low * 2 ^ x.exponent / 4 < (steps : ℚ) * 10 ^ exponent
  · exact .inl (fits_of_inside hfits (by linarith))
  · refine .inr (fits_of_inside (by linarith) ?_)
    push_cast at habove ⊢
    linarith

/-- The shortest decimal of a float lies in its basin. -/
theorem shortest_inBasin (hm : 0 < x.mantissa) (hx : Canonical x.mantissa x.exponent) :
    (shortest x).negative = x.negative ∧
      InBasin x ((shortest x).coefficient * 10 ^ (shortest x).exponent) := by
  have hfound : ((List.range 17).findSome? fun n => ofPlaces? x (n + 1)).isSome = true :=
    List.findSome?_isSome_iff.2
      ⟨16, List.mem_range.2 (by decide), isSome_ofPlaces?_seventeen hm hx⟩
  obtain ⟨d, hd⟩ := Option.isSome_iff_exists.1 hfound
  have hshortest : shortest x = d := by
    unfold shortest
    rw [if_neg hm.ne', hd]
    rfl
  obtain ⟨n, -, hplaces⟩ := List.exists_of_findSome?_eq_some hd
  rw [hshortest]
  exact ofPlaces?_some hplaces

end Search

/-! ### Reading back -/

section Reading

variable {x : Float} {exact : BinaryFraction}

lemma ofFloat?_parts (h : BinaryFraction.ofFloat? x = some exact) :
    Canonical exact.mantissa exact.exponent ∧
      canonicalRank exact.mantissa exact.exponent < infinityRank ∧
      rank x = (if exact.negative then 2 ^ 63 else 0) +
        canonicalRank exact.mantissa exact.exponent := by
  have hbits : x.toBits.toNat = rank x := rfl
  have hlt : rank x < 2 ^ 64 := x.toBits.toNat_lt
  simp only [BinaryFraction.ofFloat?, BinaryFraction.hiddenBit, BinaryFraction.leastExponent,
    hbits] at h
  split_ifs at h with hinfinite hleast
  · cases h
    refine ⟨⟨by dsimp only; omega, le_rfl, .inr rfl⟩, ?_, ?_⟩
    · simp only [canonicalRank, infinityRank]
      omega
    · simp only [canonicalRank, decide_eq_true_eq]
      split <;> omega
  · cases h
    refine ⟨⟨by dsimp only; omega, by dsimp only; omega, .inl (by dsimp only; omega)⟩, ?_, ?_⟩
    · simp only [canonicalRank, infinityRank]
      omega
    · simp only [canonicalRank, decide_eq_true_eq]
      split <;> omega

lemma exists_ofFloat? (h : x.isFinite = true) :
    ∃ exact, BinaryFraction.ofFloat? x = some exact := by
  have hbits : x.toBits.toNat = rank x := rfl
  by_cases hfield : rank x / 4503599627370496 % 2048 = 2047
  · have hexponent : @unpackExponent Format.binary64 x.toModel.toBits.toBitVec = -1#11 :=
      BitVec.eq_of_toNat_eq ((toNat_unpackExponent _).trans hfield)
    have hmodel : x.isFinite = x.toModel.unpack.isFinite := rfl
    rw [hmodel, Float.Model.unpack, UnpackedFloat.unpack, if_pos hexponent] at h
    split_ifs at h <;> cases h
  · simp only [BinaryFraction.ofFloat?, BinaryFraction.hiddenBit, hbits]
    rw [if_neg hfield]
    split_ifs
    · exact ⟨_, rfl⟩
    · exact ⟨_, rfl⟩

lemma rank_injective {y : Float} (h : rank x = rank y) : x = y :=
  toBits_injective (UInt64.toNat_inj.1 h)

lemma rank_neg (hpos : 0 < rank x) (hfinite : rank x < infinityRank) :
    rank (-x) = 2 ^ 63 + rank x := by
  obtain ⟨m, e, hm, hcanonical, hrank, -, hunpack⟩ := exists_parts hpos hfinite
  have hneg : rank (-x) = packedRank x.toModel.unpack.neg := rfl
  have hsame : packedRank (.finite .positive m e hm) = rank x := by
    rw [packedRank_finite hm hcanonical, ← hrank, Nat.min_eq_right hfinite.le]
  rw [hneg, hunpack, ← hsame]
  exact packedRank_negative hm

variable {d : Decimal}

lemma rank_magnitude (hm : 0 < exact.mantissa) (hx : Canonical exact.mantissa exact.exponent)
    (hfinite : canonicalRank exact.mantissa exact.exponent < infinityRank)
    (h : InBasin exact (d.coefficient * 10 ^ d.exponent)) :
    rank d.magnitude = canonicalRank exact.mantissa exact.exponent := by
  have hc : 0 < d.coefficient := by
    by_contra hzero
    have hpos := h.pos hm
    rw [Nat.eq_zero_of_not_pos hzero] at hpos
    simp at hpos
  rw [rank_magnitude_eq hc, roundedRank_of_inBasin hm hx h, Nat.min_eq_right hfinite.le]

/-- Every decimal in the basin of a float is read as the float. -/
theorem toFloat_of_inBasin (h : BinaryFraction.ofFloat? x = some exact) (hm : 0 < exact.mantissa)
    (hsign : d.negative = exact.negative)
    (hbasin : InBasin exact (d.coefficient * 10 ^ d.exponent)) : d.toFloat = x := by
  obtain ⟨hx, hfinite, hrank⟩ := ofFloat?_parts h
  have hmagnitude := rank_magnitude hm hx hfinite hbasin
  have hpos : 0 < rank d.magnitude := by
    rw [hmagnitude]
    unfold canonicalRank
    omega
  apply rank_injective
  unfold Decimal.toFloat
  rw [hrank, ← hmagnitude, hsign]
  split
  · rw [rank_neg hpos (hmagnitude ▸ hfinite)]
  · rw [Nat.zero_add]

lemma toFloat_of_zero (h : BinaryFraction.ofFloat? x = some exact) (hm : exact.mantissa = 0)
    (hsign : d.negative = exact.negative) (hc : d.coefficient = 0) : d.toFloat = x := by
  obtain ⟨hx, -, hrank⟩ := ofFloat?_parts h
  have hleast : exact.exponent = -1074 := hx.normal.resolve_left (by omega)
  have hmagnitude : d.magnitude = 0.0 := by
    unfold Decimal.magnitude
    dsimp only
    rw [if_pos hc]
  have hzero : rank (0.0 : Float) = 0 := by decide
  have hnegative : rank (-(0.0 : Float)) = 2 ^ 63 := by decide
  rw [hm, hleast] at hrank
  apply rank_injective
  unfold Decimal.toFloat
  rw [hrank, hmagnitude, hsign]
  split
  · rw [hnegative]
    rfl
  · rw [hzero]
    rfl

end Reading

end LoadTest.Proofs
