import LoadTest.Ramp
import LoadTest.Proofs.Collections
import LoadTest.Proofs.FloatRounding

/-!
# The steps of the rise

The time of the rise is cut into equal steps of whole nanoseconds, and what is left over goes to the
last one. Step by step they cover the rise from its beginning to its end. There are few enough of
them that no product of a step leaves the range of durations, and the number of users can be read
back from the level of the load, however it was rounded.
-/

namespace LoadTest.Proofs

open Float.Model Float.Model.UnpackedFloat

/-! ### Users as a level -/

section Levels

variable {n : ℕ}

/-- A whole number is rounded to the nearest float, however large it is. -/
lemma rank_ofNat (hpos : 0 < n) : rank (Float.ofNat n) = min infinityRank (roundedRank n) := by
  by_cases hlt : n < 2 ^ 53
  · obtain ⟨hrank, hrank', hvalue⟩ := magnitude_ofNat hpos hlt
    rw [← hvalue, roundedRank_magnitude hrank hrank']
    omega
  · have hofNat : Float.ofNat n = ⟨Float.Model.ofScientific n 0⟩ :=
      dif_neg fun h => hlt h.1
    have hshift : 0 < n <<< 53 := by
      rw [Nat.shiftLeft_eq]
      positivity
    have hrank : rank (Float.ofNat n) = packedRank (UnpackedFloat.mul Format.binary64
        (.finite .positive (n <<< 53) (-53) hshift) (.finite .positive 1 0 one_pos)) := by
      rw [hofNat]
      change packedRank (UnpackedFloat.ofScientific Format.binary64 n 0) = _
      unfold UnpackedFloat.ofScientific
      have hrange : ¬(0 : ℤ) < -(2 ^ Format.binary64.exponentBits + (n.log2 : ℤ)) := by
        have hbits : Format.binary64.exponentBits = 11 := rfl
        rw [hbits]
        omega
      rw [dif_neg hpos.ne', if_neg (by decide), if_neg hrange, if_pos le_rfl]
      rfl
    have hvalue : ((n <<< 53 : ℕ) : ℚ) * 2 ^ (-53 : ℤ) = n := by
      rw [Nat.shiftLeft_eq, Nat.cast_mul, mul_assoc]
      norm_num
    have hunit : (-53 + 0 : ℤ) ≤ unitExponent ((n <<< 53 * 1 : ℕ) * 2 ^ (-53 + 0 : ℤ)) := by
      rw [mul_one, add_zero, hvalue, unitExponent, Int.log_natCast]
      omega
    rw [hrank, packedRank_mul hshift one_pos hunit, hvalue, Nat.cast_one, one_mul, zpow_zero, mul_one]

lemma toNat_infinity {x : Float} (h : rank x = infinityRank) : x.toUInt64.toNat = 2 ^ 64 - 1 := by
  have hbits : x.toBits = 0x7FF0000000000000 := UInt64.toNat_inj.1 h
  rw [← Float.ofBits_toBits x, hbits]
  decide +kernel

/-- A whole number of at most 53 bits bounds a whole number and its level alike. -/
lemma min_level {k : ℕ} (hk : k < 2 ^ 53) (n : ℕ) :
    min k (Float.ofNat n).toUInt64.toNat = min k n := by
  obtain hlt | hle := Nat.lt_or_ge n (2 ^ 53)
  · obtain rfl | hpos := Nat.eq_zero_or_pos n
    · have hzero : (Float.ofNat 0).toUInt64.toNat = 0 := by decide +kernel
      rw [hzero]
    · obtain ⟨hrank, hrank', hvalue⟩ := magnitude_ofNat hpos hlt
      rw [toNat_toUInt64 hrank hrank', hvalue, Nat.floor_natCast]
      omega
  · suffices hlevel : k ≤ (Float.ofNat n).toUInt64.toNat by omega
    obtain rfl | hpos := Nat.eq_zero_or_pos k
    · exact Nat.zero_le _
    obtain ⟨hrank, hrank', hvalue⟩ := magnitude_ofNat hpos hk
    have hrank_le : rank (Float.ofNat k) ≤ rank (Float.ofNat n) := by
      have hcast : (k : ℚ) ≤ n := by exact_mod_cast hk.le.trans hle
      have hmono := roundedRank_mono (by exact_mod_cast hpos) hcast
      rw [rank_ofNat hpos, rank_ofNat (by omega)]
      omega
    obtain hfinite | hinfinite := (rank_ofNat (n := n) (by omega) ▸ min_le_left .. :
      rank (Float.ofNat n) ≤ infinityRank).lt_or_eq
    · have hmagnitude := magnitude_le hrank hfinite hrank_le
      rw [hvalue] at hmagnitude
      rw [toNat_toUInt64 (hrank.trans_le hrank_le) hfinite]
      have hfloor : k ≤ ⌊magnitude (Float.ofNat n)⌋₊ := Nat.le_floor hmagnitude
      omega
    · rw [toNat_infinity hinfinite]
      omega

end Levels

/-! ### Cutting the rise -/

section Steps

variable {schedule : Schedule} {rampUp : Duration} {limit n i : ℕ} {step : RampStep}

lemma duration_ext {d d' : Duration} (h : d.nanos = d'.nanos) : d = d' := by
  cases d
  cases d'
  cases h
  rfl

/-- The end of step `i` of `n`, in nanoseconds from the beginning of the rise. The last step goes on to
the end of the rise. -/
def stepEnd (rampUp : Duration) (n i : ℕ) : ℕ :=
  if i = n then rampUp.nanos else rampUp.nanos / n * i

/-- As many parts of a duration as it has, or fewer, make a duration. -/
lemma exists_times_part (d : Duration) (h : i ≤ n) :
    ∃ product, (d.part n).times i = .ok product ∧ product.nanos = d.nanos / n * i := by
  have hle : d.nanos / n * i ≤ d.nanos := calc
    d.nanos / n * i ≤ d.nanos / n * n := Nat.mul_le_mul_left _ h
    _ ≤ d.nanos := Nat.div_mul_le_self ..
  unfold Duration.times Duration.ofNanos? Duration.part
  rw [dif_pos (hle.trans_lt d.nanos_lt)]
  exact ⟨_, rfl, rfl⟩

/-- What step number `i` of `n`, counted from zero, holds and when. -/
structure IsStep (schedule : Schedule) (rampUp : Duration) (n i : ℕ) (step : RampStep) : Prop where
  start : step.start.nanos = stepEnd rampUp n i
  finish : step.finish.nanos = stepEnd rampUp n (i + 1)
  level : step.level = schedule.stepLevel (i + 1) n

/-- Plans step number `i` of `n`. -/
def planStep (schedule : Schedule) (rampUp : Duration) (n i : ℕ) : Except Fault RampStep := do
  let start ← (rampUp.part n).times i
  let finish ← if i + 1 = n then .ok rampUp else (rampUp.part n).times (i + 1)
  return { start, finish, level := schedule.stepLevel (i + 1) n }

lemma exists_planStep (schedule : Schedule) (rampUp : Duration) (h : i < n) :
    ∃ step, planStep schedule rampUp n i = .ok step ∧ IsStep schedule rampUp n i step := by
  obtain ⟨start, hstart, hstart'⟩ := exists_times_part rampUp h.le
  have hbegins : start.nanos = stepEnd rampUp n i := by
    rw [hstart', stepEnd, if_neg h.ne]
  by_cases hlast : i + 1 = n
  · refine ⟨⟨start, rampUp, _⟩, bind_eq_ok.2 ⟨start, hstart, ?_⟩, hbegins, ?_, rfl⟩
    · rw [if_pos hlast]
      rfl
    · rw [stepEnd, if_pos hlast]
  · obtain ⟨finish, hfinish, hfinish'⟩ := exists_times_part rampUp h
    refine ⟨⟨start, finish, _⟩, bind_eq_ok.2 ⟨start, hstart, ?_⟩, hbegins, ?_, rfl⟩
    · rw [if_neg hlast, hfinish]
      rfl
    · rw [hfinish', stepEnd, if_neg hlast]

/-- A rise that takes time to a load above zero is planned step by step. -/
lemma exists_steps (h : ¬(rampUp.isZero || schedule.targetLevel ≤ 0.0 || limit = 0) = true) :
    ∃ steps, schedule.rampSteps rampUp limit = .ok steps ∧
      List.Forall₂ (IsStep schedule rampUp (schedule.stepCount limit))
        (List.range (schedule.stepCount limit)) steps := by
  have hplan : schedule.rampSteps rampUp limit = (List.range (schedule.stepCount limit)).mapM
      (planStep schedule rampUp (schedule.stepCount limit)) := by
    unfold Schedule.rampSteps
    rw [if_neg h]
    rfl
  rw [hplan]
  generalize schedule.stepCount limit = n
  have hsteps : ∀ i ∈ List.range n, ∃ step, planStep schedule rampUp n i = .ok step ∧
      IsStep schedule rampUp n i step := by
    intro i hi
    exact exists_planStep schedule rampUp (List.mem_range.1 hi)
  obtain ⟨steps, hsteps⟩ := exists_forall₂ hsteps
  exact ⟨steps, mapM_eq_ok.2 (hsteps.imp fun _ _ h => h.1), hsteps.imp fun _ _ h => h.2⟩

/-- Some steps follow one another without a gap from the beginning of the rise to its end. -/
structure Tiles (rampUp : Duration) (steps : List RampStep) : Prop where
  first : ∀ step ∈ steps.head?, step.start = .zero
  joined : steps.IsChain fun step next => step.finish = next.start
  last : ∀ step ∈ steps.getLast?, step.finish = rampUp

/-- All steps but the last are of the same length, to the nanosecond, and the last one takes what
is left over. -/
structure EvenlyLong (rampUp : Duration) (steps : List RampStep) : Prop where
  equal : ∀ step ∈ steps.dropLast,
    step.finish.nanos = step.start.nanos + rampUp.nanos / steps.length
  remainder : ∀ step ∈ steps.getLast?,
    step.start.nanos + rampUp.nanos / steps.length ≤ step.finish.nanos ∧
      step.finish.nanos < step.start.nanos + rampUp.nanos / steps.length + steps.length

section Planned

variable {steps : List RampStep}
  (h : List.Forall₂ (IsStep schedule rampUp n) (List.range n) steps)
include h

lemma length_of_steps : steps.length = n := by
  rw [← h.length_eq, List.length_range]

lemma isStep_getElem (hi : i < steps.length) : IsStep schedule rampUp n i steps[i] := by
  have hstep := (List.forall₂_iff_get.1 h).2 i (by simpa [length_of_steps h] using hi) hi
  simpa using hstep

lemma tiles_of_steps : Tiles rampUp steps := by
  have hlength := length_of_steps h
  constructor
  · intro step hstep
    rw [List.head?_eq_getElem?, Option.mem_def, List.getElem?_eq_some_iff] at hstep
    obtain ⟨hpos, rfl⟩ := hstep
    apply duration_ext
    rw [(isStep_getElem h hpos).start, stepEnd, if_neg (by omega), Nat.mul_zero]
    rfl
  · rw [List.isChain_iff_getElem]
    intro i hi
    apply duration_ext
    rw [(isStep_getElem h _).finish, (isStep_getElem h hi).start]
  · intro step hstep
    rw [List.getLast?_eq_getElem?, Option.mem_def, List.getElem?_eq_some_iff] at hstep
    obtain ⟨hlast, rfl⟩ := hstep
    apply duration_ext
    rw [(isStep_getElem h hlast).finish, stepEnd, if_pos (by omega)]

lemma evenlyLong_of_steps : EvenlyLong rampUp steps := by
  have hlength := length_of_steps h
  constructor
  · intro step hstep
    obtain ⟨i, hi, rfl⟩ := List.mem_iff_getElem.1 hstep
    rw [List.length_dropLast] at hi
    rw [List.getElem_dropLast, (isStep_getElem h _).finish, (isStep_getElem h _).start, hlength,
      stepEnd, stepEnd, if_neg (by omega), if_neg (by omega), Nat.mul_succ]
  · intro step hstep
    rw [List.getLast?_eq_getElem?, Option.mem_def, List.getElem?_eq_some_iff] at hstep
    obtain ⟨hlast, hstep⟩ := hstep
    have hplanned := isStep_getElem h hlast
    rw [hstep] at hplanned
    have hstart : step.start.nanos = rampUp.nanos / n * (n - 1) := by
      rw [hplanned.start, hlength, stepEnd, if_neg (by omega)]
    have hfinish : step.finish.nanos = rampUp.nanos := by
      rw [hplanned.finish, stepEnd, if_pos (by omega)]
    have hsum : rampUp.nanos = rampUp.nanos / n * (n - 1) + rampUp.nanos / n + rampUp.nanos % n := by
      rw [← Nat.mul_succ, Nat.succ_eq_add_one, Nat.sub_add_cancel (by omega), Nat.div_add_mod']
    have hrest := Nat.mod_lt rampUp.nanos (show 0 < n by omega)
    rw [hlength]
    omega

end Planned

end Steps

/-! ### The plan of a rise -/

section Plans

variable {x : Float} {schedule : Schedule} {limit : ℕ}

lemma not_le_zero_of_pos (h : 0.0 < x) : ¬x ≤ 0.0 := by
  rw [lt_iff_unpack, unpack_zero] at h
  rw [le_iff_unpack, unpack_zero]
  generalize x.toModel.unpack = u at h ⊢
  cases u with
  | notANumber => cases h
  | infinity s =>
    cases s with
    | positive => decide
    | negative => cases h
  | zero s => cases h
  | finite s m e hm =>
    cases s with
    | positive => simp [UnpackedFloat.le, UnpackedFloat.compare]
    | negative => cases h

/-- A load above zero is reached in at least one step. -/
lemma stepCount_pos (hload : 0.0 < schedule.targetLevel) (hlimit : 0 < limit) :
    0 < schedule.stepCount limit := by
  unfold Schedule.stepCount mostRampSteps
  cases schedule with
  | concurrency users =>
    have husers : users ≠ 0 := by
      rintro rfl
      exact absurd hload (by decide +kernel)
    dsimp only
    omega
  | rate perSecond =>
    dsimp only
    omega

lemma stepCount_le (schedule : Schedule) (limit : ℕ) :
    schedule.stepCount limit ≤ min limit mostRampSteps := by
  unfold Schedule.stepCount
  cases schedule with
  | concurrency users => exact min_le_left ..
  | rate perSecond => exact le_rfl

/-- How many steps a rise has: no more than its limit, and in whole requests no more than there are,
whether they are counted or read from the level to reach. -/
def StepsCounted (limit n : ℕ) : Schedule → Prop
  | .concurrency users => n = min (min limit 1000) users ∧
    n = min (min limit 1000) (Schedule.concurrency users).targetLevel.toUInt64.toNat
  | .rate _ => n = min limit 1000

lemma stepsCounted (schedule : Schedule) (limit : ℕ) :
    StepsCounted limit (schedule.stepCount limit) schedule := by
  cases schedule with
  | concurrency users =>
    have hfew : min limit 1000 < 2 ^ 53 := by omega
    exact ⟨rfl, (min_level hfew users).symm⟩
  | rate perSecond => exact rfl

end Plans

/-- The steps tile the rise. Whenever there is time to rise to a load above zero and a step is
allowed, the rise can be planned: its steps are as many as asked for, at most a thousand and no more
than there are users; they follow one another from the beginning to the end of the rise, all of the
same length but for the last one, which is longer by less than a nanosecond for each step. There is a
step to divide by, and the number of a step fits in 32 bits. -/
theorem ramp_steps_tile (schedule : Schedule) (rampUp : Duration) (limit : ℕ)
    (hload : 0.0 < schedule.targetLevel) (htime : 0 < rampUp.nanos) (hlimit : 1 ≤ limit) :
    ∃ steps, schedule.rampSteps rampUp limit = .ok steps ∧
      StepsCounted limit steps.length schedule ∧
      1 ≤ steps.length ∧ steps.length ≤ min limit 1000 ∧
      (∀ k ≤ steps.length, k.toUInt32.toNat = k) ∧
      Tiles rampUp steps ∧ EvenlyLong rampUp steps := by
  have hrise : ¬(rampUp.isZero || schedule.targetLevel ≤ 0.0 || limit = 0) = true := by
    simp [Duration.isZero, htime.ne', not_le_zero_of_pos hload, Nat.ne_of_gt hlimit]
  obtain ⟨steps, hplan, hsteps⟩ := exists_steps hrise
  have hle : schedule.stepCount limit ≤ min limit 1000 := stepCount_le schedule limit
  refine ⟨steps, hplan, ?_⟩
  rw [length_of_steps hsteps]
  refine ⟨stepsCounted schedule limit, stepCount_pos hload hlimit, hle, ?_, tiles_of_steps hsteps,
    evenlyLong_of_steps hsteps⟩
  intro k hk
  exact Nat.mod_eq_of_lt (by omega)

/-- Three users in steps of a nanosecond, of which the last one takes two more, and a rise that is too
short for the steps that a large limit allows. -/
theorem ramp_steps_tile_short :
    (∃ steps, (Schedule.concurrency 3).rampSteps ⟨5, by decide⟩ 10 = .ok steps ∧
      steps.length = 3 ∧ Tiles ⟨5, by decide⟩ steps ∧ EvenlyLong ⟨5, by decide⟩ steps) ∧
    ∃ steps, (Schedule.rate 2.5).rampSteps ⟨7, by decide⟩ (2 ^ 64 - 1) = .ok steps ∧
      steps.length = 1000 ∧ Tiles ⟨7, by decide⟩ steps ∧ EvenlyLong ⟨7, by decide⟩ steps := by
  constructor
  · obtain ⟨steps, hplan, ⟨hcount, -⟩, -, -, -, htiles, heven⟩ :=
      ramp_steps_tile (.concurrency 3) ⟨5, by decide⟩ 10 (by decide +kernel) (by decide) (by decide)
    exact ⟨steps, hplan, hcount, htiles, heven⟩
  · obtain ⟨steps, hplan, hcount, -, -, -, htiles, heven⟩ :=
      ramp_steps_tile (.rate 2.5) ⟨7, by decide⟩ (2 ^ 64 - 1) (by decide +kernel) (by decide)
        (by decide)
    exact ⟨steps, hplan, hcount, htiles, heven⟩

end LoadTest.Proofs
