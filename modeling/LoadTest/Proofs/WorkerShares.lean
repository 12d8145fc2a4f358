import LoadTest.Distribution.Run
import LoadTest.Proofs.ArrivalIntervals
import LoadTest.Proofs.Collections

/-!
# The shares of workers

What a plan gives to each worker. A rate is divided evenly over no more workers than it has requests
per second, so that a share of a rate that can be executed can be executed too.
-/

namespace LoadTest.Proofs

open Float.Model Float.Model.UnpackedFloat

/-! ### Dividing a rate -/

section Rates

variable {x : Float}

/-- Below one there is no whole number but zero. -/
lemma toUInt64_eq_zero (hpos : 0 < rank x) (h : rank x < rank 1.0) : x.toUInt64 = 0 := by
  obtain ⟨hone, hone', hvalue⟩ := magnitude_one
  have hfinite : rank x < infinityRank := h.trans hone'
  have hlt : magnitude x < 1 := by
    by_contra! hle
    have hrank : rank 1.0 ≤ roundedRank (magnitude x) := le_roundedRank hone hone' (hvalue.trans_le hle)
    rw [roundedRank_magnitude hpos hfinite] at hrank
    omega
  apply UInt64.toNat_inj.1
  rw [toNat_toUInt64 hpos hfinite, Nat.floor_eq_zero.2 hlt]
  rfl

lemma ceilingCount_le_one (hpos : 0 < rank x) (h : rank x < rank 1.0) : ceilingCount x ≤ 1 := by
  unfold ceilingCount ceiling
  rw [toUInt64_eq_zero hpos h]
  dsimp only
  split_ifs
  · decide +kernel
  · decide +kernel
  · rw [toUInt64_eq_zero hpos h]
    decide

lemma rateWorkers_pos {parallelism : ℕ} (h : 0 < parallelism) (x : Float) :
    0 < Schedule.rateWorkers x parallelism := by
  unfold Schedule.rateWorkers
  omega

/-- A share of a positive rate is a positive rate, and no greater one. -/
lemma rank_rateShare {parallelism : ℕ} (hpos : 0 < rank x) (hfinite : rank x < infinityRank)
    (hworkers : 0 < parallelism) (hfew : Schedule.rateWorkers x parallelism ≤ longestList) :
    0 < rank (x / .ofNat (Schedule.rateWorkers x parallelism)) ∧
      rank (x / .ofNat (Schedule.rateWorkers x parallelism)) ≤ rank x := by
  obtain ⟨n, hn⟩ : ∃ n, n = Schedule.rateWorkers x parallelism := ⟨_, rfl⟩
  have hn₀ : 0 < n := hn ▸ rateWorkers_pos hworkers x
  rw [← hn] at hfew ⊢
  unfold longestList at hfew
  obtain ⟨hdivisor, hdivisor', hvalue⟩ := magnitude_ofNat hn₀ (by omega)
  have hx : 0 < magnitude x := magnitude_pos hpos hfinite
  have hn₁ : (1 : ℚ) ≤ n := by exact_mod_cast hn₀
  rw [rank_div hpos hfinite hdivisor hdivisor', hvalue]
  have hle : roundedRank (magnitude x / n) ≤ rank x :=
    roundedRank_le hpos hfinite (by positivity) (div_le_self hx.le hn₁)
  have hleast : 1 ≤ roundedRank (magnitude x / n) := by
    by_cases hone : n = 1
    · rw [hone, Nat.cast_one, div_one, roundedRank_magnitude hpos hfinite]
      exact hpos
    · -- There are several workers only for a rate above one, far from the least float.
      have hbig : rank 1.0 ≤ rank x := by
        by_contra! hlt
        have hfew := ceilingCount_le_one hpos hlt
        unfold Schedule.rateWorkers at hn
        omega
      have hvalue : 1 ≤ magnitude x := magnitude_one.2.2 ▸ magnitude_le magnitude_one.1 hfinite hbig
      have hquotient : ((1 : ℕ) : ℚ) * 2 ^ (-1074 : ℤ) ≤ magnitude x / n := by
        have hsmall : (n : ℚ) ≤ 2 ^ 48 := by exact_mod_cast hfew
        calc ((1 : ℕ) : ℚ) * 2 ^ (-1074 : ℤ) = 2 ^ (-1074 : ℤ) := by rw [Nat.cast_one, one_mul]
          _ ≤ 2 ^ (-48 : ℤ) := zpow_le_zpow_right₀ one_le_two (by decide)
          _ = 1 / 2 ^ 48 := by norm_num
          _ ≤ magnitude x / n := div_le_div₀ hx.le hvalue (by positivity) hsmall
      have hrank : roundedRank ((1 : ℕ) * 2 ^ (-1074 : ℤ)) = 1 :=
        roundedRank_canonical one_pos ⟨by decide, by decide, .inr rfl⟩
      exact hrank.symm.le.trans (roundedRank_mono (by positivity) hquotient)
  omega

lemma positive_of_rank (hpos : 0 < rank x) (hfinite : rank x < infinityRank) :
    x.isFinite = true ∧ ¬x ≤ 0.0 := by
  obtain ⟨m, e, hm, -, -, -, hunpack⟩ := exists_parts hpos hfinite
  refine ⟨isFinite_of_rank hfinite, ?_⟩
  rw [le_iff_unpack, unpack_zero, hunpack]
  simp [UnpackedFloat.le, UnpackedFloat.compare]

end Rates

/-! ### Plans -/

section Plans

variable {schedule : Schedule} {rampUp : Duration} {parallelism workers : ℕ}

/-- The workers that the shares of a schedule are for. -/
def shareCount (schedule : Schedule) (parallelism : ℕ) : ℕ :=
  match schedule with
  | .concurrency users => min users parallelism
  | .rate perSecond => Schedule.rateWorkers perSecond parallelism

/-- The load of worker number `i` of `workers`. -/
def shareOf (schedule : Schedule) (workers i : ℕ) : ℕ × Option Float :=
  match schedule with
  | .concurrency users =>
    (if i + 1 = workers then users / workers + users % workers else users / workers, none)
  | .rate perSecond => (0, some (perSecond / .ofNat workers))

lemma map_shareOf_users (users n : ℕ) :
    (List.range (n + 1)).map (fun i => (shareOf (.concurrency users) (n + 1) i).1) =
      List.replicate n (users / (n + 1)) ++ [users / (n + 1) + users % (n + 1)] := by
  rw [List.range_succ, List.map_append]
  congr 1
  · rw [List.eq_replicate_iff]
    refine ⟨by simp, ?_⟩
    intro share hshare
    obtain ⟨i, hi, rfl⟩ := List.mem_map.1 hshare
    have hlt := List.mem_range.1 hi
    exact if_neg (by omega)
  · rw [List.map_singleton, shareOf, if_pos rfl]

lemma splitUsers_eq (users workers : ℕ) :
    splitUsers users workers = if longestList < workers then .error .tooLarge
      else .ok ((List.range workers).map fun i => (shareOf (.concurrency users) workers i).1) := by
  unfold splitUsers
  congr 1
  cases workers with
  | zero => rfl
  | succ n => rw [map_shareOf_users]

/-- The shares of a schedule, unless they are too many for a list. -/
lemma shares_eq (schedule : Schedule) (parallelism : ℕ) :
    schedule.shares parallelism =
      if longestList < shareCount schedule parallelism then .error .tooLarge
      else .ok ((List.range (shareCount schedule parallelism)).map
        (shareOf schedule (shareCount schedule parallelism))) := by
  unfold Schedule.shares shareCount
  cases schedule with
  | concurrency users =>
    dsimp only
    rw [splitUsers_eq]
    split_ifs
    · rfl
    · change Except.ok (List.map _ (List.map _ _)) = _
      rw [List.map_map]
      rfl
  | rate perSecond =>
    dsimp only
    congr 2
    symm
    rw [List.eq_replicate_iff]
    refine ⟨by simp, ?_⟩
    intro share hshare
    obtain ⟨i, -, rfl⟩ := List.mem_map.1 hshare
    rfl

lemma times_eq_ok {d product : Duration} {k : ℕ} :
    d.times k = .ok product ↔ product.nanos = d.nanos * k := by
  unfold Duration.times Duration.ofNanos?
  constructor
  · intro h
    split_ifs at h
    cases h
    rfl
  · intro h
    rw [dif_pos (h ▸ product.nanos_lt)]
    exact congrArg Except.ok (duration_ext h.symm)

lemma startOffset_eq_ok {offset : Duration} {i : ℕ} :
    startOffset rampUp i workers = .ok offset ↔
      rampUp.nanos * halfWord i < wordLimit * 1000000000 ∧ halfWord workers ≠ 0 ∧
        offset.nanos = rampUp.nanos * halfWord i / halfWord workers := by
  unfold startOffset
  rw [bind_eq_ok]
  constructor
  · rintro ⟨product, hproduct, h⟩
    rw [times_eq_ok] at hproduct
    split_ifs at h with hworkers
    cases h
    exact ⟨hproduct ▸ product.nanos_lt, hworkers, congrArg (· / halfWord workers) hproduct⟩
  · rintro ⟨hfits, hworkers, hoffset⟩
    refine ⟨⟨_, hfits⟩, times_eq_ok.2 rfl, ?_⟩
    rw [if_neg hworkers]
    exact congrArg Except.ok (duration_ext hoffset.symm)

/-- What one of `workers` workers is given. -/
structure PlannedWorker (schedule : Schedule) (rampUp : Duration) (workers : ℕ)
    (p : WorkerPartition) : Prop where
  index : p.workerIndex < workers
  load : (p.users, p.requestsPerSecond) = shareOf schedule workers p.workerIndex
  offset : p.rampUpOffset.nanos = rampUp.nanos * halfWord p.workerIndex / halfWord workers

/-- The workers of a plan in order. -/
structure IsPlan (schedule : Schedule) (rampUp : Duration) (workers : ℕ)
    (ps : List WorkerPartition) : Prop where
  indices : ps.map WorkerPartition.workerIndex = List.range workers
  planned : ∀ p ∈ ps, PlannedWorker schedule rampUp workers p

/-- Worker number `i` of a plan. -/
def planWorker (schedule : Schedule) (rampUp : Duration) (workers i : ℕ) :
    Except Fault WorkerPartition := do
  let rampUpOffset ← startOffset rampUp i workers
  return {
    workerIndex := i
    users := (shareOf schedule workers i).1
    requestsPerSecond := (shareOf schedule workers i).2
    rampUpOffset }

lemma zipIdx_map_range {α : Type} (f : ℕ → α) (n : ℕ) :
    ((List.range n).map f).zipIdx = (List.range n).map fun i => (f i, i) := by
  apply List.ext_getElem
  · simp
  · intro i h₁ h₂
    simp

lemma partition_eq (h : shareCount schedule (max parallelism 1) = workers) :
    schedule.partition rampUp parallelism =
      if longestList < workers then .error .tooLarge
      else (List.range workers).mapM (planWorker schedule rampUp workers) := by
  subst h
  unfold Schedule.partition
  rw [shares_eq]
  split_ifs
  · rfl
  · change List.mapM _ (List.zipIdx _) = _
    rw [zipIdx_map_range, List.mapM_map, List.length_map, List.length_range]
    rfl

lemma isPlan_of_partition {ps : List WorkerPartition}
    (h : schedule.partition rampUp parallelism = .ok ps) :
    shareCount schedule (max parallelism 1) ≤ longestList ∧
      IsPlan schedule rampUp (shareCount schedule (max parallelism 1)) ps := by
  generalize hworkers : shareCount schedule (max parallelism 1) = workers
  rw [partition_eq hworkers] at h
  split_ifs at h with hmany
  refine ⟨not_lt.1 hmany, ?_, ?_⟩
  · have hindex : List.Forall₂ (fun i p => i = p.workerIndex) (List.range workers) ps := by
      refine (mapM_eq_ok.1 h).imp ?_
      intro i p hp
      obtain ⟨offset, -, hp⟩ := bind_eq_ok.1 hp
      cases hp
      rfl
    rw [← List.forall₂_map_right_iff, List.forall₂_eq_eq_eq] at hindex
    exact hindex.symm
  · intro p hp
    obtain ⟨i, hi, hp⟩ := exists_of_mem_mapM h hp
    obtain ⟨offset, hoffset, hp⟩ := bind_eq_ok.1 hp
    cases hp
    exact ⟨List.mem_range.1 hi, rfl, (startOffset_eq_ok.1 hoffset).2.2⟩

end Plans

section Planned

variable {schedule : Schedule} {rampUp : Duration} {parallelism workers : ℕ}
  {ps : List WorkerPartition}

lemma IsPlan.length (h : IsPlan schedule rampUp workers ps) : ps.length = workers := by
  rw [← List.length_map WorkerPartition.workerIndex, h.indices, List.length_range]

/-- The plan of a partition, by the number of its own workers. -/
lemma isPlan_length (h : schedule.partition rampUp parallelism = .ok ps) :
    ps.length ≤ longestList ∧ IsPlan schedule rampUp ps.length ps := by
  obtain ⟨hfew, hplan⟩ := isPlan_of_partition h
  rw [hplan.length]
  exact ⟨hfew, hplan⟩

lemma PlannedWorker.users_le {users : ℕ} {p : WorkerPartition}
    (h : PlannedWorker (.concurrency users) rampUp workers p) : p.users ≤ users := by
  have hshare : p.users = if p.workerIndex + 1 = workers then users / workers + users % workers
    else users / workers := congrArg Prod.fst h.load
  have hpos : 0 < workers := Nat.zero_lt_of_lt h.index
  have hdiv : users / workers * 1 ≤ users / workers * workers := Nat.mul_le_mul_left _ hpos
  have hsum := Nat.div_add_mod' users workers
  split_ifs at hshare <;> omega

/-- A worker is given a share of a rate that is positive and finite. -/
lemma rank_planned {x : Float} (hpos : 0 < rank x) (hfinite : rank x < infinityRank)
    (h : (Schedule.rate x).partition rampUp parallelism = .ok ps) :
    0 < rank (x / .ofNat ps.length) ∧ rank (x / .ofNat ps.length) < infinityRank := by
  obtain ⟨hfew, hplan⟩ := isPlan_of_partition h
  have hworkers : ps.length = Schedule.rateWorkers x (max parallelism 1) := hplan.length
  obtain ⟨hshare, hle⟩ := rank_rateShare hpos hfinite (by omega) hfew
  rw [hworkers]
  exact ⟨hshare, hle.trans_lt hfinite⟩

end Planned

/-! ### The specifications of workers -/

section Specifications

variable {spec : Spec} {schedule : Schedule} {x : Float}

lemma validate_eq_ok : spec.validate = .ok schedule ↔
    spec.schedule? = .ok schedule ∧ spec.duration.isZero = false ∧
      spec.requestTimeout.isZero = false ∧ spec.maxInFlight ≠ some 0 := by
  unfold Spec.validate
  rw [bind_eq_ok]
  constructor
  · rintro ⟨schedule', hschedule, h⟩
    split at h
    · cases h
    · split at h
      · cases h
      · split at h
        · cases h
        · cases h
          simp_all
  · rintro ⟨hschedule, hduration, htimeout, hroom⟩
    exact ⟨schedule, hschedule, by simp [hduration, htimeout, hroom]⟩

/-- The specification of a worker that carries a share of a rate can be executed. -/
lemma validate_workerSpec {rampUp : Duration} {parallelism : ℕ} {ps : List WorkerPartition}
    {p : WorkerPartition} (h : spec.validate = .ok (.rate x))
    (hplan : (Schedule.rate x).partition rampUp parallelism = .ok ps) (hp : p ∈ ps) :
    (p.workerSpec spec).validate = .ok (.rate (x / .ofNat ps.length)) := by
  obtain ⟨-, hrest⟩ := validate_eq_ok.1 h
  refine validate_eq_ok.2 ⟨?_, hrest⟩
  obtain ⟨hpos, hfinite, -⟩ := validate_rate h
  obtain ⟨hnumber, hlarge⟩ := (rank_planned hpos hfinite hplan).elim positive_of_rank
  have hrate : p.requestsPerSecond = some (x / .ofNat ps.length) :=
    congrArg Prod.snd ((isPlan_length hplan).2.planned p hp).load
  unfold WorkerPartition.workerSpec Spec.schedule?
  rw [hrate]
  simp [hnumber, hlarge]

end Specifications

end LoadTest.Proofs
