import LoadTest.Proofs.PartitionPlan

/-!
# The specifications of planned workers

A worker executes the specification of the whole load with its own share of the load in it. If the
whole can be executed, so can every share of a plan, and a worker is never turned away for its
specification.
-/

namespace LoadTest.Proofs

section Specifications

variable {spec : Spec} {schedule : Schedule} {parallelism : ℕ} {p : WorkerPartition}
  {ps : List WorkerPartition}

lemma validate_workerSpec_users (h : spec.validate = .ok schedule)
    (hnone : p.requestsPerSecond = none) : (p.workerSpec spec).validate = .ok (.concurrency p.users) := by
  obtain ⟨-, hrest⟩ := validate_eq_ok.1 h
  refine validate_eq_ok.2 ⟨?_, hrest⟩
  unfold WorkerPartition.workerSpec Spec.schedule?
  rw [hnone]

/-- The load that a valid specification names. -/
lemma load_of_validate (h : spec.validate = .ok schedule) :
    match schedule with
    | .concurrency users => spec.concurrency = some users
    | .rate _ => spec.concurrency = none := by
  obtain ⟨hschedule, -⟩ := validate_eq_ok.1 h
  unfold Spec.schedule? at hschedule
  split at hschedule
  · cases hschedule
  · cases hschedule
  · next husers _ =>
    cases hschedule
    exact husers
  · next hnone _ =>
    split at hschedule
    · cases hschedule
    · cases hschedule
      exact hnone

/-- The specification of a worker resolves to the share of the load that it carries. -/
def ResolvesTo (schedule : Schedule) (workers : ℕ) (spec : Spec) (p : WorkerPartition) : Prop :=
  match schedule with
  | .concurrency _ => (p.workerSpec spec).validate = .ok (.concurrency p.users) ∧ 1 ≤ p.users
  | .rate perSecond => ∃ share, p.requestsPerSecond = some share ∧
    share = perSecond / .ofNat workers ∧ (p.workerSpec spec).validate = .ok (.rate share)

lemma resolvesTo_of_mem (hvalid : spec.validate = .ok schedule)
    (hplan : schedule.partition spec.rampUp parallelism = .ok ps) (hp : p ∈ ps) :
    ResolvesTo schedule ps.length spec p := by
  have hload := loadShared_of_partition hplan
  unfold ResolvesTo
  cases schedule with
  | concurrency users =>
    obtain ⟨hone, hnone, -⟩ := hload.2 p hp
    exact ⟨validate_workerSpec_users hvalid hnone, hone⟩
  | rate perSecond =>
    obtain ⟨-, hshare⟩ := hload p hp
    exact ⟨_, hshare, rfl, validate_workerSpec hvalid hplan hp⟩

lemma workerSpec_name_inj {q : WorkerPartition}
    (h : (p.workerSpec spec).name = (q.workerSpec spec).name) : p.workerIndex = q.workerIndex :=
  Nat.repr_injective ((String.append_right_inj _).1 h)

lemma IsPlan.names_nodup {rampUp : Duration} {workers : ℕ}
    (h : IsPlan schedule rampUp workers ps) :
    (ps.map fun p => (p.workerSpec spec).name).Nodup := by
  unfold List.Nodup
  rw [List.pairwise_map]
  refine h.apart.imp ?_
  intro p q hlt hname
  exact hlt.ne (workerSpec_name_inj hname)

lemma sum_concurrency (hvalid : spec.validate = .ok schedule)
    (hplan : schedule.partition spec.rampUp parallelism = .ok ps) :
    (ps.map fun p => (p.workerSpec spec).concurrency.getD 0).sum = spec.concurrency.getD 0 := by
  have hspec := load_of_validate hvalid
  have hload := loadShared_of_partition hplan
  cases schedule with
  | concurrency users =>
    obtain ⟨hsum, hshares⟩ := hload
    have husers : (ps.map fun p => (p.workerSpec spec).concurrency.getD 0) =
        ps.map WorkerPartition.users := by
      apply List.map_congr_left
      intro p hp
      unfold WorkerPartition.workerSpec
      rw [(hshares p hp).2.1]
      rfl
    rw [husers, hsum, show spec.concurrency = some users from hspec]
    rfl
  | rate perSecond =>
    rw [show spec.concurrency = none from hspec]
    apply List.sum_eq_zero
    intro n hn
    obtain ⟨p, hp, rfl⟩ := List.mem_map.1 hn
    unfold WorkerPartition.workerSpec
    rw [(hload p hp).2]
    rfl

/-- A generator turns a specification away only if it is not valid. -/
lemma execute_ne_error (g g' : Generator) (failure : Failure) (h : spec.validate = .ok schedule) :
    g.execute spec ≠ .ok (.error failure, g') := by
  intro hexecute
  unfold Generator.execute at hexecute
  rw [h] at hexecute
  obtain ⟨⟨run, g₁⟩, -, hexecute⟩ := bind_eq_ok.1 hexecute
  cases hexecute

end Specifications

/-- The workers of a plan for a valid specification. -/
structure ValidWorkers (spec : Spec) (schedule : Schedule) (ps : List WorkerPartition) : Prop where
  resolved : ∀ p ∈ ps, ResolvesTo schedule ps.length spec p
  /-- But for its name and its load, a worker's specification is that of the whole. -/
  kept : ∀ p ∈ ps, { p.workerSpec spec with
    name := spec.name
    concurrency := spec.concurrency
    requestsPerSecond := spec.requestsPerSecond } = spec
  named_apart : (ps.map fun p => (p.workerSpec spec).name).Nodup
  shared : (ps.map fun p => (p.workerSpec spec).concurrency.getD 0).sum = spec.concurrency.getD 0
  /-- No worker is turned away for its specification. -/
  accepted : ∀ p ∈ ps, ∀ (c : Coordinator) script workers calls failure g,
    (c.workerGenerator script workers calls (WorkerTask.ofPartition p spec)).execute
      (WorkerTask.ofPartition p spec).spec ≠ .ok (.error failure, g)

/-- Every share of a plan for a valid specification is valid and resolves to its part of the load.
-/
theorem worker_specs_valid (spec : Spec) (schedule : Schedule) (parallelism : ℕ)
    (ps : List WorkerPartition) (hvalid : spec.validate = .ok schedule)
    (hplan : schedule.partition spec.rampUp parallelism = .ok ps) :
    ValidWorkers spec schedule ps where
  resolved _ hp := resolvesTo_of_mem hvalid hplan hp
  kept _ _ := rfl
  named_apart := (isPlan_of_partition hplan).2.names_nodup
  shared := sum_concurrency hvalid hplan
  accepted := by
    intro p hp c script workers calls failure g
    have hresolved := resolvesTo_of_mem hvalid hplan hp
    unfold ResolvesTo at hresolved
    cases schedule with
    | concurrency users => exact execute_ne_error _ _ _ hresolved.1
    | rate perSecond =>
      obtain ⟨share, -, -, hshare⟩ := hresolved
      exact execute_ne_error _ _ _ hshare

/-- Ten users who arrive within a second. -/
def tenUsers : Spec :=
  { concurrency := some 10, duration := .ofMillis 100, rampUp := .ofMillis 1000 }

/-- Five requests in two seconds. -/
def slowRate : Spec :=
  { requestsPerSecond := some 2.5, duration := .ofMillis 2000, warmupRequests := some 1,
    maxInFlight := some 2 }

theorem worker_specs_valid_both :
    (∃ ps, (Schedule.concurrency 10).partition tenUsers.rampUp 4 = .ok ps ∧ ps.length = 4 ∧
      ValidWorkers tenUsers (.concurrency 10) ps) ∧
    ∃ ps, (Schedule.rate 2.5).partition slowRate.rampUp 8 = .ok ps ∧ ps.length = 3 ∧
      ValidWorkers slowRate (.rate 2.5) ps := by
  constructor
  · obtain ⟨ps, hps⟩ : ∃ ps, (Schedule.concurrency 10).partition tenUsers.rampUp 4 = .ok ps :=
      exists_partition rfl (by decide) (by decide)
    exact ⟨ps, hps, (isPlan_of_partition hps).2.length,
      worker_specs_valid tenUsers (.concurrency 10) 4 ps rfl hps⟩
  · have hthree : shareCount (.rate 2.5) (max 8 1) = 3 := by decide +kernel
    obtain ⟨ps, hps⟩ : ∃ ps, (Schedule.rate 2.5).partition slowRate.rampUp 8 = .ok ps :=
      exists_partition hthree (by decide) (by decide)
    exact ⟨ps, hps, (isPlan_of_partition hps).2.length.trans hthree,
      worker_specs_valid slowRate (.rate 2.5) 8 ps rfl hps⟩

end LoadTest.Proofs
