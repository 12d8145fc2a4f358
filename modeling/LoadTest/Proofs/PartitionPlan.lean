import LoadTest.Proofs.WorkerShares

/-!
# Plans for workers

How a load is split over workers. There is one worker for each user, or for each request a second,
but no more than may work side by side. Users are shared out to the last one, a rate is divided
evenly, and the workers begin to rise one after the other within the time of the rise.
-/

namespace LoadTest.Proofs

open Float.Model Float.Model.UnpackedFloat

/-! ### Rounding a rate up -/

section RoundingUp

variable {x y : Float}

lemma rank_le_iff_magnitude_le (hx : 0 < rank x) (hx' : rank x < infinityRank) (hy : 0 < rank y)
    (hy' : rank y < infinityRank) : rank x ≤ rank y ↔ magnitude x ≤ magnitude y := by
  constructor
  · exact magnitude_le hx hy'
  · intro hle
    rw [← roundedRank_magnitude hx hx', ← roundedRank_magnitude hy hy']
    exact roundedRank_mono (magnitude_pos hx hx') hle

lemma lt_iff_magnitude_lt (hx : 0 < rank x) (hx' : rank x < infinityRank) (hy : 0 < rank y)
    (hy' : rank y < infinityRank) : x < y ↔ magnitude x < magnitude y := by
  have hrank : x < y ↔ rank x < rank y := by
    rw [lt_iff_unpack, UnpackedFloat.lt, compare_unpack hx hx' hy hy', beq_iff_eq,
      Option.some.injEq, compare_lt_iff_lt]
  rw [hrank, ← not_le, rank_le_iff_magnitude_le hy hy' hx hx', not_le]

lemma lt_wholeFrom_iff (hx : 0 < rank x) (hx' : rank x < infinityRank) :
    x < wholeFrom ↔ magnitude x < 2 ^ 53 := by
  have hvalue : magnitude wholeFrom = 2 ^ 53 := by
    rw [magnitude_of_rank (m := 2 ^ 52) (e := 1) ⟨by decide, by decide, .inl le_rfl⟩
      (by decide +kernel) (by decide +kernel)]
    norm_num
  rw [lt_iff_magnitude_lt hx hx' (by decide +kernel) (by decide +kernel), hvalue]

/-- From `2 ^ 53` on every float is whole. -/
lemma exists_natCast_of_large (hx : 0 < rank x) (hx' : rank x < infinityRank)
    (h : 2 ^ 53 ≤ magnitude x) : ∃ n : ℕ, magnitude x = n := by
  obtain ⟨m, e, hm, hcanonical, -, hvalue, -⟩ := exists_parts hx hx'
  have he : 0 ≤ e := by
    by_contra! hneg
    have hm' : (m : ℚ) < 2 ^ 53 := by exact_mod_cast hcanonical.1
    have hpow : (2 : ℚ) ^ e ≤ 1 := zpow_le_one_of_nonpos₀ one_le_two hneg.le
    have hle : magnitude x ≤ m := by
      rw [hvalue]
      exact mul_le_of_le_one_right (Nat.cast_nonneg m) hpow
    linarith
  obtain ⟨n, rfl⟩ := Int.eq_ofNat_of_zero_le he
  refine ⟨m * 2 ^ n, ?_⟩
  rw [hvalue]
  push_cast
  rfl

lemma toFloat_lt_iff {k : ℕ} (hk : k < 2 ^ 53) (hx : 0 < rank x) (hx' : rank x < infinityRank) :
    k.toUInt64.toFloat < x ↔ (k : ℚ) < magnitude x := by
  obtain rfl | hpos := Nat.eq_zero_or_pos k
  · refine iff_of_true ?_ ?_
    · obtain ⟨m, e, hm, -, -, -, hunpack⟩ := exists_parts hx hx'
      have hzero : (Nat.toUInt64 0).toFloat.toModel.unpack = .zero .positive := by rfl
      rw [lt_iff_unpack, hzero, hunpack]
      rfl
    · exact_mod_cast magnitude_pos hx hx'
  · obtain ⟨hk₀, hk₁, hvalue⟩ := magnitude_toFloat hpos hk
    rw [lt_iff_magnitude_lt hk₀ hk₁ hx hx', hvalue]

lemma toNat_toFloat {k : ℕ} (hk : k ≤ 2 ^ 53) : k.toUInt64.toFloat.toUInt64.toNat = k := by
  obtain rfl | hlt := hk.eq_or_lt
  · decide +kernel
  obtain rfl | hpos := Nat.eq_zero_or_pos k
  · decide +kernel
  · obtain ⟨hk₀, hk₁, hvalue⟩ := magnitude_toFloat hpos hlt
    rw [toNat_toUInt64 hk₀ hk₁, hvalue, Nat.floor_natCast]
    omega

/-- A positive float is rounded up to a whole number of 64 bits. -/
lemma ceilingCount_eq (hx : 0 < rank x) (hx' : rank x < infinityRank) :
    ceilingCount x = min ⌈magnitude x⌉₊ (2 ^ 64 - 1) := by
  have hfloor := toNat_toUInt64 hx hx'
  unfold ceilingCount ceiling
  by_cases hsmall : magnitude x < 2 ^ 53
  · rw [if_pos ((lt_wholeFrom_iff hx hx').2 hsmall)]
    obtain ⟨k, hk⟩ : ∃ k, k = ⌊magnitude x⌋₊ := ⟨_, rfl⟩
    have hklt : k < 2 ^ 53 := by
      rw [hk, Nat.floor_lt (magnitude_pos hx hx').le]
      exact_mod_cast hsmall
    have hle : (k : ℚ) ≤ magnitude x := hk ▸ Nat.floor_le (magnitude_pos hx hx').le
    have hword : x.toUInt64 = k.toUInt64 := by
      apply UInt64.toNat_inj.1
      rw [hfloor, ← hk]
      simp
      omega
    dsimp only
    rw [hword]
    by_cases hlt : (k : ℚ) < magnitude x
    · have hsucc : k.toUInt64 + 1 = (k + 1).toUInt64 := by
        apply UInt64.toNat_inj.1
        simp
      have hceil : ⌈magnitude x⌉₊ = k + 1 := by
        rw [Nat.ceil_eq_iff (by omega)]
        refine ⟨by simpa using hlt, ?_⟩
        rw [hk]
        exact_mod_cast (Nat.lt_floor_add_one _).le
      rw [if_pos ((toFloat_lt_iff hklt hx hx').2 hlt), hsucc, toNat_toFloat (by omega), hceil]
      omega
    · have hceil : ⌈magnitude x⌉₊ = k := by
        rw [le_antisymm (not_lt.1 hlt) hle, Nat.ceil_natCast]
      rw [if_neg fun h => hlt ((toFloat_lt_iff hklt hx hx').1 h), toNat_toFloat hklt.le, hceil]
      omega
  · rw [if_neg fun h => hsmall ((lt_wholeFrom_iff hx hx').1 h), hfloor]
    obtain ⟨n, hn⟩ := exists_natCast_of_large hx hx' (not_lt.1 hsmall)
    rw [hn, Nat.floor_natCast, Nat.ceil_natCast]

lemma ceilingCount_infinity (h : rank x = infinityRank) : ceilingCount x = 2 ^ 64 - 1 := by
  have hbits : x.toBits = 0x7FF0000000000000 := UInt64.toNat_inj.1 h
  rw [← Float.ofBits_toBits x, hbits]
  decide +kernel

/-- What is no number, and what is not above zero, has no whole part. -/
lemma unpack_of_not_above (h : rank x = 0 ∨ infinityRank < rank x) :
    (x.toModel.unpack.toInt 0 (UInt64.size - 1)).toNat = 0 ∧
      (UnpackedFloat.zero .positive).lt x.toModel.unpack = false := by
  have hrank : rank x = x.toModel.toBits.toBitVec.toNat := rfl
  rw [hrank] at h
  unfold Float.Model.unpack
  generalize x.toModel.toBits.toBitVec = b at h
  unfold infinityRank at h
  by_cases hnegative : 2 ^ 63 ≤ b.toNat
  · unfold UnpackedFloat.unpack
    simp only [unpackSign_eq_one hnegative]
    have hround (m : ℕ) (e : ℤ) : (roundToInt (Sign.ofBitVec 1#1) m e).toNat = 0 :=
      Int.toNat_neg_natCast _
    split_ifs
    · exact ⟨rfl, rfl⟩
    · exact ⟨rfl, rfl⟩
    · exact ⟨rfl, rfl⟩
    · exact ⟨hround _ _, rfl⟩
    · exact ⟨hround _ _, rfl⟩
  · obtain hzero | hinfinite := h
    · obtain rfl : b = 0#64 := BitVec.eq_of_toNat_eq hzero
      exact ⟨rfl, rfl⟩
    · have hones : @unpackExponent Format.binary64 b = -1#11 := by
        apply BitVec.eq_of_toNat_eq
        rw [toNat_unpackExponent b]
        simp
        omega
      have hfraction : @unpackMantissa Format.binary64 b ≠ 0#52 := by
        intro hzero
        have hnat := congrArg BitVec.toNat hzero
        rw [toNat_unpackMantissa] at hnat
        simp at hnat
        omega
      unfold UnpackedFloat.unpack
      simp only [hones, if_true]
      rw [if_neg hfraction]
      exact ⟨rfl, rfl⟩

lemma ceilingCount_of_not_above (h : rank x = 0 ∨ infinityRank < rank x) : ceilingCount x = 0 := by
  obtain ⟨hint, hlt⟩ := unpack_of_not_above h
  have hword : x.toUInt64 = 0 := by
    have hclamp : x.toUInt64 =
        UInt64.ofNatClamp (x.toModel.unpack.toInt 0 (UInt64.size - 1)).toNat := rfl
    rw [hclamp, hint]
    rfl
  have hnot : ¬(0 : UInt64).toFloat < x := by
    have hzero : (0 : UInt64).toFloat.toModel.unpack = .zero .positive := by rfl
    rw [lt_iff_unpack, hzero, hlt]
    decide
  unfold ceilingCount ceiling
  simp only [hword, if_neg hnot]
  split_ifs
  · decide +kernel
  · rw [hword]
    rfl

end RoundingUp

/-! ### The number of workers -/

section Workers

variable {schedule : Schedule} {x : Float} {parallelism : ℕ}

/-- The least whole number that is not below a finite float; zero for negative floats and for what
is no number. -/
def wholeAbove (x : Float) : ℕ := if rank x < infinityRank then ⌈magnitude x⌉₊ else 0

/-- How many workers a load is split over if `parallelism` of them may work side by side. -/
def plannedWorkers (schedule : Schedule) (parallelism : ℕ) : ℕ :=
  match schedule with
  | .concurrency users => min users parallelism
  | .rate perSecond =>
    if rank perSecond = infinityRank then parallelism
    else min (max (wholeAbove perSecond) 1) parallelism

lemma ceilingCount_eq_wholeAbove (h : rank x ≠ infinityRank) :
    ceilingCount x = min (wholeAbove x) (2 ^ 64 - 1) := by
  unfold wholeAbove
  by_cases hfinite : rank x < infinityRank
  · rw [if_pos hfinite]
    obtain hzero | hpos := Nat.eq_zero_or_pos (rank x)
    · rw [ceilingCount_of_not_above (.inl hzero), magnitude_zero hzero, Nat.ceil_zero]
      rfl
    · exact ceilingCount_eq hpos hfinite
  · rw [if_neg hfinite, ceilingCount_of_not_above (.inr (by omega))]
    rfl

/-- The limit of 64 bits is out of reach of fewer than `2 ^ 32` workers. -/
lemma shareCount_eq (h : plannedWorkers schedule parallelism < 2 ^ 32) :
    shareCount schedule parallelism = plannedWorkers schedule parallelism := by
  cases schedule with
  | concurrency users => rfl
  | rate perSecond =>
    unfold plannedWorkers at h ⊢
    unfold shareCount Schedule.rateWorkers
    dsimp only at h ⊢
    by_cases hinfinite : rank perSecond = infinityRank
    · rw [if_pos hinfinite] at h ⊢
      rw [ceilingCount_infinity hinfinite]
      omega
    · rw [if_neg hinfinite] at h ⊢
      rw [ceilingCount_eq_wholeAbove hinfinite]
      omega

end Workers

/-! ### The existence of a plan -/

/-- Nothing is cut off a number below `2 ^ 32`. -/
lemma halfWord_eq {n : ℕ} (h : n < 2 ^ 32) : halfWord n = n := Nat.mod_eq_of_lt h

lemma exists_partition {schedule : Schedule} {rampUp : Duration} {parallelism workers : ℕ}
    (h : shareCount schedule (max parallelism 1) = workers) (hfew : workers < 2 ^ 32)
    (hfits : rampUp.nanos * (workers - 1) < wordLimit * 1000000000) :
    ∃ ps, schedule.partition rampUp parallelism = .ok ps := by
  have hlist : ¬longestList < workers := by
    unfold longestList
    omega
  rw [partition_eq h, if_neg hlist]
  apply exists_mapM_eq_ok
  intro i hi
  have hlt := List.mem_range.1 hi
  have hproduct : rampUp.nanos * halfWord i < wordLimit * 1000000000 := by
    rw [halfWord_eq (hlt.trans hfew)]
    exact (Nat.mul_le_mul_left _ (by omega)).trans_lt hfits
  have hworkers : halfWord workers ≠ 0 := by
    rw [halfWord_eq hfew]
    omega
  have hoffset : startOffset rampUp i workers =
      .ok (Duration.part ⟨_, hproduct⟩ (halfWord workers)) :=
    startOffset_eq_ok.2 ⟨hproduct, hworkers, rfl⟩
  exact exists_bind_eq_ok hoffset ⟨_, rfl⟩

/-! ### What a plan amounts to -/

section Totals

variable {schedule : Schedule} {rampUp : Duration} {workers users : ℕ} {x : Float}
  {ps : List WorkerPartition}

lemma IsPlan.sum_users (h : IsPlan (.concurrency users) rampUp workers ps) (hpos : 0 < workers) :
    (ps.map WorkerPartition.users).sum = users := by
  have hshares : ps.map WorkerPartition.users =
      (List.range workers).map fun i => (shareOf (.concurrency users) workers i).1 := by
    rw [← h.indices, List.map_map]
    apply List.map_congr_left
    intro p hp
    exact congrArg Prod.fst (h.planned p hp).load
  cases workers with
  | zero => omega
  | succ n =>
    rw [hshares, map_shareOf_users, List.sum_append, List.sum_replicate, List.sum_singleton]
    have hsum := Nat.div_add_mod users (n + 1)
    rw [Nat.succ_mul] at hsum
    rw [smul_eq_mul]
    omega

lemma IsPlan.apart (h : IsPlan schedule rampUp workers ps) :
    ps.Pairwise fun p q => p.workerIndex < q.workerIndex := by
  rw [← List.pairwise_map, h.indices]
  exact List.pairwise_lt_range

lemma IsPlan.offset (h : IsPlan schedule rampUp workers ps) (hfew : workers < 2 ^ 32)
    {p : WorkerPartition} (hp : p ∈ ps) :
    p.rampUpOffset.nanos = rampUp.nanos * p.workerIndex / workers := by
  obtain ⟨hindex, -, hoffset⟩ := h.planned p hp
  rwa [halfWord_eq (hindex.trans hfew), halfWord_eq hfew] at hoffset

lemma IsPlan.pairwise_offset {R : ℕ → ℕ → Prop} (h : IsPlan schedule rampUp workers ps)
    (hfew : workers < 2 ^ 32)
    (hR : ∀ i j, i < j → R (rampUp.nanos * i / workers) (rampUp.nanos * j / workers)) :
    ps.Pairwise fun p q => R p.rampUpOffset.nanos q.rampUpOffset.nanos := by
  refine h.apart.imp_of_mem ?_
  intro p q hp hq hlt
  rw [h.offset hfew hp, h.offset hfew hq]
  exact hR _ _ hlt

/-- Every user is given to a worker, and every worker is given one at least; all carry the same
load, but the last one takes what is left over. A rate is divided evenly. -/
def LoadShared (schedule : Schedule) (ps : List WorkerPartition) : Prop :=
  match schedule with
  | .concurrency users =>
    (ps.map WorkerPartition.users).sum = users ∧
    ∀ p ∈ ps, 1 ≤ p.users ∧ p.requestsPerSecond = none ∧
      p.users = if p.workerIndex + 1 = ps.length then users / ps.length + users % ps.length
        else users / ps.length
  | .rate perSecond =>
    ∀ p ∈ ps, p.users = 0 ∧ p.requestsPerSecond = some (perSecond / .ofNat ps.length)

/-- The workers begin to rise one after the other, within the time of the rise. -/
structure Staggered (rampUp : Duration) (ps : List WorkerPartition) : Prop where
  offset : ∀ p ∈ ps, p.rampUpOffset.nanos = rampUp.nanos * p.workerIndex / ps.length
  first : ∀ p ∈ ps, p.workerIndex = 0 → p.rampUpOffset.nanos = 0
  ordered : ps.Pairwise fun p q => p.rampUpOffset.nanos ≤ q.rampUpOffset.nanos
  within : 0 < rampUp.nanos → ∀ p ∈ ps, p.rampUpOffset.nanos < rampUp.nanos
  apart : ps.length ≤ rampUp.nanos →
    ps.Pairwise fun p q => p.rampUpOffset.nanos < q.rampUpOffset.nanos

lemma IsPlan.loadShared (h : IsPlan schedule rampUp workers ps)
    (hworkers : ∀ users, schedule = .concurrency users →
      workers ≤ users ∧ (0 < users → 0 < workers)) : LoadShared schedule ps := by
  unfold LoadShared
  rw [h.length]
  cases schedule with
  | concurrency users =>
    obtain ⟨hle, hpos⟩ := hworkers users rfl
    obtain rfl | husers := Nat.eq_zero_or_pos users
    · obtain rfl : workers = 0 := by omega
      obtain rfl : ps = [] := List.length_eq_zero_iff.1 h.length
      exact ⟨rfl, List.forall_mem_nil _⟩
    · refine ⟨h.sum_users (hpos husers), ?_⟩
      intro p hp
      have hload := (h.planned p hp).load
      have hshare : p.users = if p.workerIndex + 1 = workers then users / workers + users % workers
        else users / workers := congrArg Prod.fst hload
      have hone : 0 < users / workers := Nat.div_pos hle (hpos husers)
      refine ⟨?_, congrArg Prod.snd hload, hshare⟩
      split_ifs at hshare <;> omega
  | rate perSecond =>
    intro p hp
    have hload := (h.planned p hp).load
    exact ⟨congrArg Prod.fst hload, congrArg Prod.snd hload⟩

lemma shareCount_concurrency {parallelism : ℕ} (h : 0 < parallelism) :
    shareCount (.concurrency users) parallelism ≤ users ∧
      (0 < users → 0 < shareCount (.concurrency users) parallelism) := by
  unfold shareCount
  dsimp only
  omega

lemma loadShared_of_partition {parallelism : ℕ}
    (h : schedule.partition rampUp parallelism = .ok ps) : LoadShared schedule ps := by
  apply (isPlan_of_partition h).2.loadShared
  rintro users rfl
  exact shareCount_concurrency (by omega)

lemma IsPlan.staggered (h : IsPlan schedule rampUp workers ps) (hfew : workers < 2 ^ 32) :
    Staggered rampUp ps where
  offset := by
    rw [h.length]
    exact fun p hp => h.offset hfew hp
  first := by
    intro p hp hfirst
    rw [h.offset hfew hp, hfirst, Nat.mul_zero, Nat.zero_div]
  ordered := by
    apply h.pairwise_offset hfew
    intro i j hlt
    exact Nat.div_le_div_right (Nat.mul_le_mul_left _ hlt.le)
  within := by
    intro hpos p hp
    have hindex := (h.planned p hp).index
    rw [h.offset hfew hp, Nat.div_lt_iff_lt_mul (by omega)]
    exact Nat.mul_lt_mul_of_pos_left hindex hpos
  apart := by
    rw [h.length]
    intro hlong
    obtain rfl | hpos := Nat.eq_zero_or_pos workers
    · rw [List.length_eq_zero_iff.1 h.length]
      exact .nil
    apply h.pairwise_offset hfew
    intro i j hlt
    -- the time of the rise is enough to part two workers by a nanosecond
    have hstep : rampUp.nanos * i + workers ≤ rampUp.nanos * j := calc
      rampUp.nanos * i + workers ≤ rampUp.nanos * i + rampUp.nanos := Nat.add_le_add_left hlong _
      _ = rampUp.nanos * (i + 1) := (Nat.mul_succ ..).symm
      _ ≤ rampUp.nanos * j := Nat.mul_le_mul_left _ hlt
    calc rampUp.nanos * i / workers < (rampUp.nanos * i + workers) / workers := by
          rw [Nat.add_div_right _ hpos]
          exact Nat.lt_succ_self _
      _ ≤ rampUp.nanos * j / workers := Nat.div_le_div_right hstep

end Totals

/-- A load that is split over fewer than `2 ^ 32` workers, and whose rise can be counted out to the
last of them, has a plan: the workers are numbered in order, the load is shared out among them, and
they begin to rise one after the other. -/
theorem partition_planned (schedule : Schedule) (rampUp : Duration) (parallelism : ℕ)
    (hfew : plannedWorkers schedule (max parallelism 1) < 2 ^ 32)
    (hfits : rampUp.nanos * (plannedWorkers schedule (max parallelism 1) - 1) <
      wordLimit * 1000000000) :
    ∃ ps, schedule.partition rampUp parallelism = .ok ps ∧
      ps.map WorkerPartition.workerIndex =
        List.range (plannedWorkers schedule (max parallelism 1)) ∧
      LoadShared schedule ps ∧ Staggered rampUp ps := by
  have hcount := shareCount_eq hfew
  obtain ⟨ps, hps⟩ := exists_partition hcount hfew hfits
  obtain ⟨-, hplan⟩ := isPlan_of_partition hps
  rw [hcount] at hplan
  exact ⟨ps, hps, hplan.indices, loadShared_of_partition hps, hplan.staggered hfew⟩

theorem partition_planned_remainder :
    (∃ ps, (Schedule.concurrency 10).partition ⟨10, by decide⟩ 4 = .ok ps ∧
      ps.map WorkerPartition.workerIndex = [0, 1, 2, 3] ∧ LoadShared (.concurrency 10) ps ∧
      Staggered ⟨10, by decide⟩ ps) ∧
    ∃ ps, (Schedule.rate 2.5).partition (.ofMillis 1) 8 = .ok ps ∧
      ps.map WorkerPartition.workerIndex = [0, 1, 2] ∧ LoadShared (.rate 2.5) ps ∧
      Staggered (.ofMillis 1) ps := by
  have hthree : plannedWorkers (.rate 2.5) (max 8 1) = 3 := by decide +kernel
  constructor
  · exact partition_planned (.concurrency 10) ⟨10, by decide⟩ 4 (by decide) (by decide)
  · have hplan := partition_planned (.rate 2.5) (.ofMillis 1) 8
    rw [hthree] at hplan
    exact hplan (by decide) (by decide)

end LoadTest.Proofs
