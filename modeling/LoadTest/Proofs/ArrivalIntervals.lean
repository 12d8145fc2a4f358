import Mathlib.Algebra.Order.Floor.Div
import LoadTest.Proofs.InFlightBounds
import LoadTest.Proofs.RampTiling

/-!
# Intervals between arrivals

At a rate, requests arrive at the interval nearest to the inverse of the rate. Up to two thousand
million requests a second this leaves time between two arrivals, at the full load and at every step
of the rise. A faster rate is accepted too, but its arrivals have no time between them: once one of
them is due, the run handles arrivals for ever without its clock advancing.
-/

namespace LoadTest.Proofs

open Float.Model Float.Model.UnpackedFloat

section Interval

/-- The fastest rate whose arrivals have time between them. -/
def fastestRate : Float := 2000000000.0

variable {x : Float}

lemma nearestEven_eq_zero_iff (v : ℚ) : nearestEven v = 0 ↔ v ≤ 1 / 2 := by
  constructor
  · intro hzero
    by_contra! hlt
    have hfloor : ⌊v⌋₊ = 0 := Nat.eq_zero_of_le_zero (hzero ▸ floor_le_nearestEven v)
    rw [nearestEven, hfloor, Nat.cast_zero, sub_zero, if_neg (by linarith), if_pos hlt] at hzero
    cases hzero
  · intro hle
    have hfloor : ⌊v⌋₊ = 0 := Nat.floor_eq_zero.2 (by linarith)
    rw [nearestEven, hfloor, Nat.cast_zero, sub_zero, if_neg (not_lt.2 hle)]
    simp

lemma nearestMultiple_eq (exact : BinaryFraction) (k : ℕ) :
    exact.nearestMultiple k = nearestEven (exact.mantissa * 2 ^ exact.exponent * k) := by
  have hpower : (2 : ℚ) ^ exact.exponent =
      2 ^ exact.exponent.toNat / 2 ^ (-exact.exponent).toNat := by
    rw [← zpow_natCast, ← zpow_natCast, ← zpow_sub₀ two_ne_zero]
    congr 1
    omega
  unfold BinaryFraction.nearestMultiple BinaryFraction.scaled
  rw [Nat.shiftLeft_eq, Nat.one_shiftLeft, nearestQuotient_eq (by positivity), hpower]
  congr 1
  push_cast
  ring

lemma ofFloat?_infinity (h : rank x = infinityRank) : BinaryFraction.ofFloat? x = none := by
  have hbits : x.toBits.toNat = infinityRank := h
  simp only [BinaryFraction.ofFloat?, hbits]
  rfl

/-- No interval is cut down to nothing. -/
lemma elim_ofNanos?_eq_zero_iff (n : ℕ) :
    ((Duration.ofNanos? n).elim longestInterval (min · longestInterval)).nanos = 0 ↔ n = 0 := by
  have hday : longestInterval.nanos = 86400000000000 := rfl
  unfold Duration.ofNanos?
  by_cases hlt : n < wordLimit * 1000000000
  · rw [dif_pos hlt, Option.elim_some]
    change (if n ≤ longestInterval.nanos then (⟨n, hlt⟩ : Duration) else longestInterval).nanos = 0 ↔ _
    split
    · exact Iff.rfl
    · omega
  · rw [dif_neg hlt, Option.elim_none]
    unfold wordLimit at hlt
    omega

/-- Two arrivals have no time between them if the period is at most half a nanosecond. -/
lemma arrivalInterval_eq_zero_iff (h : rank (1.0 / x) ≤ infinityRank) :
    (arrivalInterval x).nanos = 0 ↔
      rank (1.0 / x) < infinityRank ∧ magnitude (1.0 / x) * (1000000000 : ℕ) ≤ 1 / 2 := by
  unfold arrivalInterval
  generalize 1.0 / x = period at h ⊢
  rw [if_neg (not_lt_zero h)]
  obtain hfinite | hinfinite := h.lt_or_eq
  · obtain ⟨m, e, -, -, hexact, -⟩ := exists_canonical hfinite
    have hvalue : magnitude period = m * 2 ^ e := by rw [magnitude, hexact]
    rw [and_iff_right hfinite, hexact, Option.bind_some, elim_ofNanos?_eq_zero_iff,
      nearestMultiple_eq, nearestEven_eq_zero_iff, hvalue]
  · rw [ofFloat?_infinity hinfinite, Option.bind_none, Option.elim_none]
    exact iff_of_false (by decide) fun hlt => hlt.1.ne hinfinite

lemma rank_one_div (hx : 0 < rank x) (hx' : rank x < infinityRank) :
    rank (1.0 / x) = min infinityRank (roundedRank (1 / magnitude x)) := by
  obtain ⟨hpos, hfinite, hone⟩ := magnitude_one
  rw [rank_div hpos hfinite hx hx', hone]

/-- A faster rate has no longer period. -/
lemma rank_one_div_le {y : Float} (hx : 0 < rank x) (hy' : rank y < infinityRank)
    (h : rank x ≤ rank y) : rank (1.0 / y) ≤ rank (1.0 / x) := by
  have hx' : rank x < infinityRank := h.trans_lt hy'
  have hy : 0 < rank y := hx.trans_le h
  have hpos := magnitude_pos hx hx'
  have hmono : roundedRank (1 / magnitude y) ≤ roundedRank (1 / magnitude x) :=
    roundedRank_mono (one_div_pos.2 (magnitude_pos hy hy'))
      (one_div_le_one_div_of_le hpos (magnitude_le hx hy' h))
  rw [rank_one_div hx hx', rank_one_div hy hy']
  omega

lemma rank_one_div_zero (h : rank x = 0) : rank (1.0 / x) = infinityRank := by
  have hbits : x.toModel.toBits.toBitVec = 0#64 := BitVec.eq_of_toNat_eq h
  have hrank : rank (1.0 / x) = packedRank
      (UnpackedFloat.div Format.binary64 (1.0 : Float).toModel.unpack x.toModel.unpack) := rfl
  obtain ⟨m, e, hm, -, -, -, hunpack⟩ := exists_parts magnitude_one.1 magnitude_one.2.1
  rw [hrank, hunpack, Float.Model.unpack, hbits]
  rfl

lemma arrivalInterval_pos (h : rank x ≤ rank fastestRate) : 0 < (arrivalInterval x).nanos := by
  have hfastest : rank fastestRate < infinityRank := by decide +kernel
  by_contra! hle
  have hzero : (arrivalInterval x).nanos = 0 := Nat.eq_zero_of_le_zero hle
  obtain hrank | hpos := Nat.eq_zero_or_pos (rank x)
  · have hperiod := rank_one_div_zero hrank
    exact ((arrivalInterval_eq_zero_iff hperiod.le).1 hzero).1.ne hperiod
  have hx' : rank x < infinityRank := h.trans_lt hfastest
  have hperiod : rank (1.0 / x) ≤ infinityRank := by
    rw [rank_one_div hpos hx']
    exact min_le_left ..
  obtain ⟨hfinite, hhalf⟩ := (arrivalInterval_eq_zero_iff hperiod).1 hzero
  -- the shortest period of all is still above half a nanosecond
  have hshortest : magnitude (1.0 / fastestRate) = 4835703278458517 * 2 ^ (-83 : ℤ) :=
    magnitude_of_rank ⟨by decide, by decide, .inl (by decide)⟩ (by decide +kernel) (by decide +kernel)
  have hle : magnitude (1.0 / fastestRate) ≤ magnitude (1.0 / x) :=
    magnitude_le (by decide +kernel) hfinite (rank_one_div_le hpos hfastest h)
  rw [hshortest] at hle
  norm_num at hle hhalf
  linarith

lemma arrivalInterval_eq_zero (h : rank fastestRate < rank x) (hx' : rank x < infinityRank) :
    (arrivalInterval x).nanos = 0 := by
  -- the least rate above the fastest
  let next : Float := .ofBits 0x41DDCD6500000001
  have hnext : rank next = rank fastestRate + 1 := by decide +kernel
  have hperiod : rank (1.0 / x) ≤ rank (1.0 / next) :=
    rank_one_div_le (by omega) hx' (by omega)
  have hlongest : magnitude (1.0 / next) = 4835703278458516 * 2 ^ (-83 : ℤ) :=
    magnitude_of_rank ⟨by decide, by decide, .inl (by decide)⟩ (by decide +kernel) (by decide +kernel)
  have hfinite : rank (1.0 / next) < infinityRank := by decide +kernel
  rw [arrivalInterval_eq_zero_iff (by omega)]
  refine ⟨by omega, ?_⟩
  obtain hzero | hpos := Nat.eq_zero_or_pos (rank (1.0 / x))
  · rw [magnitude_zero hzero]
    norm_num
  · have hle := magnitude_le hpos hfinite hperiod
    rw [hlongest] at hle
    norm_num at hle ⊢
    linarith

end Interval

section Rise

variable {x : Float} {k n : ℕ}

lemma magnitude_fastest : magnitude fastestRate = 2000000000 := by
  rw [magnitude_of_rank (m := 8388608000000000) (e := -22) ⟨by decide, by decide, .inl (by decide)⟩
    (by decide +kernel) (by decide +kernel)]
  norm_num

lemma rank_share_le (hx : 0 < rank x) (h : rank x ≤ rank fastestRate) (hk : 0 < k) (hkn : k ≤ n)
    (hn : n ≤ mostRampSteps) :
    0 < rank (x * .ofNat k) ∧ rank (x * .ofNat k) ≤ rank (.ofNat (2000000000 * n)) := by
  unfold mostRampSteps at hn
  have hfastest : rank fastestRate < infinityRank := by decide +kernel
  have hx' : rank x < infinityRank := h.trans_lt hfastest
  obtain ⟨hk₀, hk₁, hkvalue⟩ := magnitude_ofNat hk (by omega)
  obtain ⟨hm₀, hm₁, hmvalue⟩ := magnitude_ofNat (n := 2000000000 * n) (by omega) (by omega)
  have hxpos : 0 < magnitude x := magnitude_pos hx hx'
  have hone : (1 : ℚ) ≤ k := by exact_mod_cast hk
  have hmultiple : magnitude x * k ≤ (2000000000 * n : ℕ) := by
    have hvalue : magnitude x ≤ 2000000000 := magnitude_fastest ▸ magnitude_le hx hfastest h
    have hle : (k : ℚ) ≤ n := by exact_mod_cast hkn
    push_cast
    exact mul_le_mul hvalue hle (by positivity) (by norm_num)
  have hlow : rank x ≤ roundedRank (magnitude x * k) :=
    le_roundedRank hx hx' (le_mul_of_one_le_right hxpos.le hone)
  have hhigh : roundedRank (magnitude x * k) ≤ rank (.ofNat (2000000000 * n)) :=
    roundedRank_le hm₀ hm₁ (by positivity) (hmultiple.trans hmvalue.ge)
  rw [rank_mul hx hx' hk₀ hk₁, hkvalue]
  omega

/-- No step of the rise holds more than the fastest rate, however its level is rounded. -/
lemma rank_stepLevel_le (hx : 0 < rank x) (h : rank x ≤ rank fastestRate) (hk : 0 < k) (hkn : k ≤ n)
    (hn : n ≤ mostRampSteps) : rank ((Schedule.rate x).stepLevel k n) ≤ rank fastestRate := by
  obtain ⟨hp₀, hple⟩ := rank_share_le hx h hk hkn hn
  unfold mostRampSteps at hn
  obtain ⟨hn₀, hn₁, hnvalue⟩ := magnitude_ofNat (n := n) (by omega) (by omega)
  obtain ⟨-, hm₁, hmvalue⟩ := magnitude_ofNat (n := 2000000000 * n) (by omega) (by omega)
  have hp₁ : rank (x * .ofNat k) < infinityRank := hple.trans_lt hm₁
  have hnpos : (0 : ℚ) < n := by exact_mod_cast hk.trans_le hkn
  have hquotient : magnitude (x * .ofNat k) / n ≤ magnitude fastestRate := by
    have hvalue := magnitude_le hp₀ hm₁ hple
    rw [hmvalue] at hvalue
    rw [magnitude_fastest, div_le_iff₀ hnpos]
    exact_mod_cast hvalue
  have hlevel : (Schedule.rate x).stepLevel k n = x * .ofNat k / .ofNat n := rfl
  rw [hlevel, rank_div hp₀ hp₁ hn₀ hn₁, hnvalue]
  exact (min_le_right ..).trans (roundedRank_le (hx.trans_le h) (by decide +kernel)
    (div_pos (magnitude_pos hp₀ hp₁) hnpos) hquotient)

/-- The rise to a rate can always be planned. -/
lemma exists_rampSteps (x : Float) (rampUp : Duration) (limit : ℕ) :
    ∃ steps, (Schedule.rate x).rampSteps rampUp limit = .ok steps ∧
      ∀ step ∈ steps, ∃ k n, 0 < k ∧ k ≤ n ∧ n ≤ mostRampSteps ∧
        step.level = (Schedule.rate x).stepLevel k n := by
  by_cases hrise : (rampUp.isZero || (Schedule.rate x).targetLevel ≤ 0.0 || limit = 0) = true
  · exact ⟨[], if_pos hrise, nofun⟩
  obtain ⟨steps, hplan, hsteps⟩ := exists_steps hrise
  refine ⟨steps, hplan, ?_⟩
  intro step hstep
  obtain ⟨i, hi, rfl⟩ := List.mem_iff_getElem.1 hstep
  have hcount : (Schedule.rate x).stepCount limit ≤ mostRampSteps := min_le_right ..
  exact ⟨i + 1, _, i.succ_pos, length_of_steps hsteps ▸ hi, hcount,
    (isStep_getElem hsteps hi).level⟩

end Rise

section CatchUp

variable {r r' : Run} {phase : Phase} {interval deadline now next : ℕ}

/-- How many arrivals are due when the clock reads `now`, the first of them at `next`. -/
def arrivalsDue (interval deadline now next : ℕ) : ℕ :=
  (min (now + 1) deadline - next) ⌈/⌉ interval

lemma lt_arrivalsDue_iff (hpos : 0 < interval) (k : ℕ) :
    k < arrivalsDue interval deadline now next ↔
      next + interval * k ≤ now ∧ next + interval * k < deadline := by
  have hle : arrivalsDue interval deadline now next ≤ k ↔
      min (now + 1) deadline - next ≤ interval * k := ceilDiv_le_iff_le_mul hpos
  omega

lemma arrivalsDue_succ (hpos : 0 < interval) (hdue : next ≤ now ∧ next < deadline) :
    arrivalsDue interval deadline now next =
      arrivalsDue interval deadline now (next + interval) + 1 := by
  apply eq_of_forall_lt_iff
  intro k
  rw [lt_arrivalsDue_iff hpos]
  cases k with
  | zero => simpa using hdue
  | succ k =>
    rw [Nat.add_lt_add_iff_right, lt_arrivalsDue_iff hpos, Nat.mul_succ]
    omega

lemma arrivalsDue_eq_zero (hpos : 0 < interval) (hdue : ¬(next ≤ now ∧ next < deadline)) :
    arrivalsDue interval deadline now next = 0 := by
  by_contra hne
  have hfirst := (lt_arrivalsDue_iff hpos 0).1 (Nat.pos_of_ne_zero hne)
  exact hdue (by simpa using hfirst)

/-- The arrivals that a run has handled, each by a call or by skipping it. -/
def arrivalsHandled (r : Run) : ℕ := r.calls + r.runner.skipped

lemma arrive_handled (h : r.arrive phase now = .ok r') :
    arrivalsHandled r' = arrivalsHandled r + 1 ∧ r'.runner.nextId ≤ r.runner.nextId + 1 := by
  unfold arrivalsHandled
  obtain ⟨-, rfl⟩ | ⟨-, -, rfl⟩ := arrive_ok h
  · exact ⟨rfl, Nat.le_succ _⟩
  · refine ⟨?_, le_rfl⟩
    change r.calls + 1 + r.runner.skipped = _
    omega

lemma arrive_error {fault : Fault} (h : r.arrive phase now = .error fault) :
    fault = .overflow ∧ wordLimit ≤ r.runner.nextId + 1 := by
  unfold Run.arrive Run.issue Runner.issue at h
  by_cases hfull : r.runner.isFull r.setup.spec.maxInFlight = true
  · rw [if_pos hfull] at h
    cases h
  · rw [if_neg hfull] at h
    by_cases hlimit : r.runner.nextId + 1 < wordLimit
    · rw [if_pos hlimit] at h
      cases h
    · rw [if_neg hlimit] at h
      cases h
      exact ⟨rfl, not_lt.1 hlimit⟩

/-- One reading of the clock handles every arrival that is due and no other, unless the identifiers
run out before. -/
def CatchesUp (r : Run) (phase : Phase) (interval deadline now next : ℕ) : Prop :=
  (∃ r', r.catchUp phase interval deadline now next =
      .ok (r', next + interval * arrivalsDue interval deadline now next) ∧
    arrivalsHandled r' = arrivalsHandled r + arrivalsDue interval deadline now next) ∨
  r.catchUp phase interval deadline now next = .error .overflow ∧
    wordLimit ≤ r.runner.nextId + arrivalsDue interval deadline now next

lemma catchesUp (hpos : 0 < interval) (r : Run) (phase : Phase) (deadline now next : ℕ) :
    CatchesUp r phase interval deadline now next := by
  unfold CatchesUp
  fun_induction Run.catchUp r phase interval deadline now next with
  | case1 => omega
  | case2 r next hdue hne r₁ harrive ih =>
    obtain ⟨hhandled, hid⟩ := arrive_handled harrive
    rw [arrivalsDue_succ hpos hdue]
    obtain ⟨r', hok, hmore⟩ | ⟨herror, hlimit⟩ := ih
    · refine .inl ⟨r', ?_, by omega⟩
      rw [hok, Nat.mul_succ]
      congr 2
      omega
    · exact .inr ⟨herror, by omega⟩
  | case3 r next hdue hne fault harrive =>
    obtain ⟨rfl, hlimit⟩ := arrive_error harrive
    rw [arrivalsDue_succ hpos hdue]
    exact .inr ⟨rfl, by omega⟩
  | case4 r next hdue =>
    rw [arrivalsDue_eq_zero hpos hdue]
    exact .inl ⟨r, rfl, rfl⟩

lemma catchUp_stalled (hdue : next ≤ now) (hlt : next < deadline) :
    r.catchUp phase 0 deadline now next = .error .stalled := by
  unfold Run.catchUp
  rw [if_pos ⟨hdue, hlt⟩, if_pos rfl]

/-- A level without time between its arrivals cannot be held. -/
lemma issueDue_beginHold {x level : Float} (r : Run) (phase : Phase)
    (hschedule : r.setup.schedule = .rate x) (hzero : (arrivalInterval level).nanos = 0)
    (hlt : now < deadline) :
    (r.beginHold phase level deadline now).1.issueDue (r.beginHold phase level deadline now).2 now =
      .error .stalled := by
  unfold Run.beginHold
  rw [hschedule]
  dsimp only
  unfold Run.issueDue
  simp only [hzero, Option.getD_some]
  cases r.runner.nextArrival with
  | none => rw [catchUp_stalled le_rfl hlt]; rfl
  | some next =>
    have hle : min next (now + 0) ≤ now := min_le_right ..
    rw [catchUp_stalled hle (hle.trans_lt hlt)]
    rfl

lemma lt_of_past {d : Duration} (hpos : 0 < d.nanos) (h : d.past now = .ok deadline) :
    now < deadline := by
  obtain ⟨-, rfl⟩ := clockReading_eq_ok.1 h
  omega

lemma beginSustained_stalled {x : Float} (hschedule : r.setup.schedule = .rate x)
    (hzero : (arrivalInterval x).nanos = 0) (hdeadline : r.setup.spec.duration.past now = .ok deadline)
    (hlt : now < deadline) : r.beginSustained false now = .error .stalled := by
  have hlevel : r.setup.schedule.targetLevel = x := by rw [hschedule]; rfl
  have hdue : (r.beginFullLoad deadline now).1.issueDue (r.beginFullLoad deadline now).2 now =
      .error .stalled := by
    unfold Run.beginFullLoad
    exact issueDue_beginHold _ .sustained hschedule (hlevel ▸ hzero) hlt
  simp only [Run.beginSustained, hdeadline, bind, Except.bind, Bool.false_eq_true, if_false,
    if_neg (not_le.2 hlt), hdue]

end CatchUp

section Schedulable

variable {setup : Setup} {spec : Spec} {x : Float}

lemma validate_rate (h : spec.validate = .ok (.rate x)) :
    0 < rank x ∧ rank x < infinityRank ∧ 0 < spec.duration.nanos := by
  obtain ⟨schedule, hschedule, h⟩ := bind_eq_ok.1 h
  by_cases hduration : spec.duration.isZero = true
  · rw [if_pos hduration] at h
    cases h
  rw [if_neg hduration] at h
  obtain rfl : schedule = .rate x := by
    split at h
    · cases h
    · split at h
      · cases h
      · exact Except.ok.inj h
  have hrate : x.isFinite = true ∧ ¬x ≤ 0.0 := by
    unfold Spec.schedule? at hschedule
    split at hschedule
    · cases hschedule
    · cases hschedule
    · cases hschedule
    · split at hschedule
      · cases hschedule
      · next hgood =>
        cases hschedule
        simpa using hgood
  obtain ⟨hpos, hfinite⟩ := rank_of_positive hrate.1 hrate.2
  exact ⟨hpos, hfinite, Nat.pos_of_ne_zero (by simpa [Duration.isZero] using hduration)⟩

lemma plannedLevels_rate (h : setup.schedule = .rate x) :
    ∃ steps, setup.schedule.rampSteps setup.spec.rampUp setup.settings.maxRampSteps = .ok steps ∧
      plannedLevels setup = steps.map RampStep.level ++ [x] ∧
      ∀ step ∈ steps, ∃ k n, 0 < k ∧ k ≤ n ∧ n ≤ mostRampSteps ∧
        step.level = (Schedule.rate x).stepLevel k n := by
  obtain ⟨steps, hsteps, hlevels⟩ :=
    exists_rampSteps x setup.spec.rampUp setup.settings.maxRampSteps
  refine ⟨steps, h ▸ hsteps, ?_, hlevels⟩
  unfold plannedLevels
  rw [h, hsteps]
  rfl

lemma planned_interval_pos (hschedule : setup.schedule = .rate x) (hx : 0 < rank x)
    (h : rank x ≤ rank fastestRate) :
    ∀ level ∈ plannedLevels setup, 0 < (arrivalInterval level).nanos := by
  obtain ⟨steps, -, hplan, hlevels⟩ := plannedLevels_rate hschedule
  intro level hlevel
  rw [hplan, List.mem_append, List.mem_map, List.mem_singleton] at hlevel
  obtain ⟨step, hstep, rfl⟩ | rfl := hlevel
  · obtain ⟨k, n, hk, hkn, hn, hlevel⟩ := hlevels step hstep
    rw [hlevel]
    exact arrivalInterval_pos (rank_stepLevel_le hx h hk hkn hn)
  · exact arrivalInterval_pos h

/-- Wherever a run holds a level, it keeps up with the arrivals. -/
lemma hold_catchesUp {calls now : ℕ} {cancelled : Bool} {stage : Stage} {hold : Hold} {r : Run}
    (hschedule : setup.schedule = .rate x)
    (hpos : ∀ level ∈ plannedLevels setup, 0 < (arrivalInterval level).nanos)
    (hpasses : Passes setup calls (.within stage) now cancelled r)
    (hhold : stage.hold? = some hold) :
    ∃ interval, hold.pace = .rate interval ∧ 0 < interval.nanos ∧
      ∀ next, CatchesUp r hold.phase interval.nanos hold.deadline now next := by
  obtain ⟨level, hlevel, hpace⟩ := (passes_onPlan hpasses).pace hold hhold
  have hinterval : 0 < (arrivalInterval level).nanos := hpos level (List.mem_of_getElem? hlevel)
  rw [hschedule] at hpace
  exact ⟨arrivalInterval level, hpace, hinterval, fun next => catchesUp hinterval r _ _ _ next⟩

/-- A rate that is accepted can be scheduled if it is no faster than the fastest rate: then every
planned level leaves time between its arrivals, and wherever the run holds a level, one reading of
the clock handles finitely many. With a faster rate no run gets past the beginning of its full load. -/
theorem rate_schedulable_iff (setup : Setup) (rate : Float)
    (hvalid : setup.spec.validate = .ok (.rate rate)) (hschedule : setup.schedule = .rate rate) :
    (∃ steps, setup.schedule.rampSteps setup.spec.rampUp setup.settings.maxRampSteps = .ok steps ∧
      plannedLevels setup = steps.map RampStep.level ++ [rate]) ∧
    ((∀ level ∈ plannedLevels setup, 0 < (arrivalInterval level).nanos) ↔ rate ≤ fastestRate) ∧
    (rate ≤ fastestRate → ∀ calls stage hold now cancelled r,
      Passes setup calls (.within stage) now cancelled r → stage.hold? = some hold →
      ∃ interval, hold.pace = .rate interval ∧ 0 < interval.nanos ∧
        ∀ next, CatchesUp r hold.phase interval.nanos hold.deadline now next) ∧
    (¬rate ≤ fastestRate → ∀ (r : Run) now deadline, r.setup = setup →
      setup.spec.duration.past now = .ok deadline → r.beginSustained false now = .error .stalled) := by
  obtain ⟨hpos, hfinite, hduration⟩ := validate_rate hvalid
  obtain ⟨steps, hsteps, hplan, -⟩ := plannedLevels_rate hschedule
  have horder : rate ≤ fastestRate ↔ rank rate ≤ rank fastestRate :=
    le_iff_rank_le hpos hfinite (by decide +kernel) (by decide +kernel)
  have hinterval (hle : rate ≤ fastestRate) :
      ∀ level ∈ plannedLevels setup, 0 < (arrivalInterval level).nanos :=
    planned_interval_pos hschedule hpos (horder.1 hle)
  have hzero (hgt : ¬rate ≤ fastestRate) : (arrivalInterval rate).nanos = 0 :=
    arrivalInterval_eq_zero (not_le.1 (horder.not.1 hgt)) hfinite
  refine ⟨⟨steps, hsteps, hplan⟩, ⟨fun hlevels => ?_, hinterval⟩, ?_, ?_⟩
  · by_contra hgt
    have hmem : rate ∈ plannedLevels setup := by simp [hplan]
    exact (hlevels rate hmem).ne' (hzero hgt)
  · intro hle calls stage hold now cancelled r hpasses hhold
    exact hold_catchesUp hschedule (hinterval hle) hpasses hhold
  · rintro hgt r now deadline rfl hdeadline
    exact beginSustained_stalled hschedule (hzero hgt) hdeadline (lt_of_past hduration hdeadline)

/-- Two thousand million requests a second, reached in four steps, of which one may be in flight. -/
def fastestSetup : Setup where
  spec :=
    { requestsPerSecond := some 2000000000.0, duration := .ofMillis 100, rampUp := .ofMillis 40,
      maxInFlight := some 1 }
  schedule := .rate 2000000000.0
  settings := { maxRampSteps := 4 }
  host := default

/-- Four thousand million requests a second. -/
def hastySetup : Setup where
  spec := { requestsPerSecond := some 4000000000.0, duration := .ofMillis 100 }
  schedule := .rate 4000000000.0
  host := default

theorem rate_schedulable_iff_rising :
    (∀ level ∈ plannedLevels fastestSetup, 0 < (arrivalInterval level).nanos) ∧
    (∃ r r', Run.start fastestSetup 0 false 0 = .ok r ∧
      r.catchUp .rampUp 2 (10 ^ 7) 10 2 = .ok (r', 12) ∧
      arrivalsHandled r' = arrivalsHandled r + 5) ∧
    (Run.opened hastySetup 0 0).beginSustained false 0 = .error .stalled := by
  have hfastest : (2000000000.0 : Float) ≤ fastestRate := by decide +kernel
  obtain ⟨-, hlevels, hkeeps, -⟩ := rate_schedulable_iff fastestSetup 2000000000.0 rfl rfl
  obtain ⟨-, -, -, hstalls⟩ := rate_schedulable_iff hastySetup 4000000000.0 rfl rfl
  refine ⟨hlevels.2 hfastest, ?_, hstalls (by decide +kernel) _ 0 (10 ^ 8) rfl rfl⟩
  have hfigures : (do
      let r ← Run.start fastestSetup 0 false 0
      return (r.stage.hold?.bind fun hold : Hold => match hold.pace with
          | .rate interval => some (hold.phase, interval.nanos, hold.deadline)
          | .concurrency _ => none,
        r.runner.nextId)).toOption = some (some (.rampUp, 2, 10 ^ 7), 1) := by decide +kernel
  obtain ⟨r, hstart, hfigures⟩ := bind_eq_ok.1 (ok_of_toOption hfigures)
  simp only [pure, Except.pure, Except.ok.injEq, Prod.mk.injEq, Option.bind_eq_some_iff] at hfigures
  obtain ⟨⟨hold, hhold, hpace'⟩, hid⟩ := hfigures
  have hpasses : Passes fastestSetup 0 (.within r.stage) 10 false r :=
    (passes_start hstart).elapse (Nat.zero_le _) id
  obtain ⟨interval, hpace, -, hcatches⟩ := hkeeps hfastest _ _ hold _ _ r hpasses hhold
  rw [hpace] at hpace'
  simp only [Option.some.injEq, Prod.mk.injEq] at hpace'
  obtain ⟨hphase, hinterval, hdeadline⟩ := hpace'
  have hcatch := hcatches 2
  rw [hphase, hinterval, hdeadline] at hcatch
  have hdue : arrivalsDue 2 (10 ^ 7) 10 2 = 5 := by decide
  unfold CatchesUp at hcatch
  rw [hdue, hid] at hcatch
  obtain ⟨r', hok, hhandled⟩ | ⟨-, hlimit⟩ := hcatch
  · exact ⟨r, r', hstart, hok, hhandled⟩
  · exact absurd hlimit (by decide)

theorem accepted_rate_stalls :
    hastySetup.spec.validate = .ok (.rate 4000000000.0) ∧
      (arrivalInterval 4000000000.0).nanos = 0 ∧
      Run.start hastySetup 0 false 0 = .error .stalled := by
  have hzero : (arrivalInterval 4000000000.0).nanos = 0 := by decide +kernel
  have hstart : Run.start hastySetup 0 false 0 =
      ((Run.opened hastySetup 0 0).measured 0).beginSustained false 0 := rfl
  have hdeadline : hastySetup.spec.duration.past 0 = .ok (10 ^ 8) := rfl
  refine ⟨rfl, hzero, ?_⟩
  rw [hstart]
  exact beginSustained_stalled rfl hzero hdeadline (by decide)

end Schedulable

end LoadTest.Proofs
