import LoadTest.Proofs.WorkerShares

/-!
# Requests in flight of a distributed run

Every worker is given the whole limit on the requests in flight, not a share of it. So a distributed
run keeps the limit once for each worker, and no better: workers that are woken late, while nothing
settles, all reach it.
-/

namespace LoadTest.Proofs

/-! ### Filling up to a limit -/

/-- The run has handled some arrivals, of which it started those that the limit left room for. -/
structure Fills (cap due : ℕ) (r r' : Run) : Prop where
  setup : r'.setup = r.setup
  clock : r'.runner.clock = r.runner.clock
  inFlight : r'.runner.inFlight.length = min cap (r.runner.inFlight.length + due)
  numbered : r'.runner.nextId + r.runner.inFlight.length =
    r.runner.nextId + r'.runner.inFlight.length

section Filling

variable {cap due now next interval deadline : ℕ} {phase : Phase} {r r₁ r' : Run}

/-- There is a number left for each request that the limit leaves room for. -/
def HasRoom (cap : ℕ) (r : Run) : Prop :=
  r.setup.spec.maxInFlight = some cap ∧ r.runner.inFlight.length ≤ cap ∧
    r.runner.nextId + cap < wordLimit + r.runner.inFlight.length

lemma Fills.hasRoom (h : Fills cap due r r') (hroom : HasRoom cap r) : HasRoom cap r' := by
  obtain ⟨hcap, hle, hid⟩ := hroom
  refine ⟨by rw [h.setup, hcap], h.inFlight ▸ min_le_left .., ?_⟩
  have hnumbered := h.numbered
  omega

lemma Fills.trans {due' : ℕ} (h : Fills cap due r r₁) (h' : Fills cap due' r₁ r') :
    Fills cap (due + due') r r' := by
  have hflight := h.inFlight
  have hflight' := h'.inFlight
  have hnumbered := h.numbered
  have hnumbered' := h'.numbered
  exact ⟨h'.setup.trans h.setup, h'.clock.trans h.clock, by omega, by omega⟩

lemma exists_arrive (h : HasRoom cap r) (phase : Phase) (now : ℕ) :
    ∃ r', r.arrive phase now = .ok r' ∧ Fills cap 1 r r' := by
  obtain ⟨hcap, hle, hid⟩ := h
  cases harrive : r.arrive phase now with
  | error fault =>
    have hlimit := (arrive_error harrive).2
    unfold Run.arrive Runner.isFull at harrive
    rw [hcap] at harrive
    have hfull : r.runner.inFlight.length = cap := by omega
    simp [hfull] at harrive
  | ok r' =>
    refine ⟨r', rfl, ?_⟩
    obtain ⟨hfull, rfl⟩ | ⟨hfree, -, rfl⟩ := arrive_ok harrive
    · rw [hcap] at hfull
      have hfull : cap ≤ r.runner.inFlight.length := by simpa [Runner.isFull] using hfull
      refine ⟨rfl, rfl, ?_, rfl⟩
      change r.runner.inFlight.length = _
      omega
    · rw [hcap] at hfree
      have hfree : r.runner.inFlight.length < cap := by simpa [Runner.isFull] using hfree
      have hlength : (issuedRun r phase now).runner.inFlight.length =
          r.runner.inFlight.length + 1 := by simp [issuedRunner]
      refine ⟨rfl, rfl, by omega, ?_⟩
      rw [hlength]
      change r.runner.nextId + 1 + _ = _
      omega

/-- One reading of the clock fills a run up with the arrivals that are due. -/
lemma exists_catchUp (hpos : 0 < interval) (h : HasRoom cap r) (phase : Phase)
    (deadline now next : ℕ) :
    ∃ r', r.catchUp phase interval deadline now next =
        .ok (r', next + interval * arrivalsDue interval deadline now next) ∧
      Fills cap (arrivalsDue interval deadline now next) r r' := by
  fun_induction Run.catchUp r phase interval deadline now next with
  | case1 => omega
  | case2 r next hdue _ r₁ harrive ih =>
    obtain ⟨r₂, harrive', hfills⟩ := exists_arrive h phase now
    obtain rfl : r₁ = r₂ := Except.ok.inj (harrive.symm.trans harrive')
    obtain ⟨r', hcatch, hfills'⟩ := ih (hfills.hasRoom h)
    rw [arrivalsDue_succ hpos hdue]
    refine ⟨r', ?_, ?_⟩
    · rw [hcatch, Nat.mul_succ]
      congr 2
      omega
    · rw [Nat.add_comm]
      exact hfills.trans hfills'
  | case3 r next _ _ fault harrive =>
    obtain ⟨r₂, harrive', -⟩ := exists_arrive h phase now
    cases harrive.symm.trans harrive'
  | case4 r next hdue =>
    rw [arrivalsDue_eq_zero hpos hdue]
    obtain ⟨-, hle, -⟩ := h
    exact ⟨r, rfl, rfl, rfl, by omega, rfl⟩

lemma exists_issueDue {hold : Hold} {interval : Duration} (hpace : hold.pace = .rate interval)
    (hpos : 0 < interval.nanos) (h : HasRoom cap r) (hnext : r.runner.nextArrival = some next)
    (now : ℕ) :
    ∃ r', r.issueDue hold now = .ok r' ∧
      Fills cap (arrivalsDue interval.nanos hold.deadline now next) r r' ∧
      r'.runner.nextArrival =
        some (next + interval.nanos * arrivalsDue interval.nanos hold.deadline now next) := by
  obtain ⟨r₁, hcatch, hfills⟩ := exists_catchUp hpos h hold.phase hold.deadline now next
  generalize next + interval.nanos * arrivalsDue interval.nanos hold.deadline now next = later
    at hcatch ⊢
  have hissue : r.issueDue hold now =
      .ok { r₁ with runner := { r₁.runner with nextArrival := some later } } := by
    unfold Run.issueDue
    simp only [hpace, hnext, Option.getD_some, hcatch]
    rfl
  exact ⟨_, hissue, ⟨hfills.setup, hfills.clock, hfills.inFlight, hfills.numbered⟩, rfl⟩

/-- The full load begins with one request. -/
lemma exists_beginSustained {x : Float} (hschedule : r.setup.schedule = .rate x)
    (hpos : 0 < (arrivalInterval x).nanos) (h : HasRoom cap r)
    (hfirst : r.runner.nextArrival = none)
    (hdeadline : r.setup.spec.duration.past now = .ok deadline) (hlt : now < deadline) :
    ∃ r' hold, r.beginSustained false now = .ok r' ∧ Fills cap 1 r r' ∧
      r'.stage = .sustained hold ∧ hold.pace = .rate (arrivalInterval x) ∧
      hold.deadline = deadline ∧
      r'.runner.nextArrival = some (now + (arrivalInterval x).nanos) := by
  obtain ⟨b, hb⟩ : ∃ b, b = r.beginFullLoad deadline now := ⟨_, rfl⟩
  have hpace : b.2.pace = .rate (arrivalInterval x) := by
    simp [hb, Run.beginHold, hschedule, Schedule.targetLevel]
  have hnext : b.1.runner.nextArrival = some now := by
    simp [hb, Run.beginHold, hschedule, hfirst]
  have hbegun : Fills cap 0 r b.1 := by
    obtain ⟨-, hle, -⟩ := h
    refine ⟨by simp [hb], by simp [hb], ?_, by simp [hb]⟩
    simpa [hb] using hle
  have hdue : arrivalsDue (arrivalInterval x).nanos b.2.deadline now now = 1 := by
    have hover : b.2.deadline = deadline := by simp [hb]
    rw [hover, arrivalsDue_succ hpos ⟨le_rfl, hlt⟩, arrivalsDue_eq_zero hpos (by omega)]
  obtain ⟨r', hissue, hfills, hlater⟩ := exists_issueDue hpace hpos (hbegun.hasRoom h) hnext now
  rw [hdue] at hfills hlater
  have hsustained : r.beginSustained false now = .ok { r' with stage := .sustained b.2 } := by
    simp only [Run.beginSustained, hdeadline, bind, Except.bind, Bool.false_eq_true, if_false,
      if_neg (not_le.2 hlt), ← hb, hissue]
    rfl
  have hfilled : Fills cap 1 r r' := by simpa using hbegun.trans hfills
  refine ⟨_, b.2, hsustained, ?_, rfl, hpace, by simp [hb], ?_⟩
  · exact ⟨hfilled.setup, hfilled.clock, hfilled.inFlight, hfilled.numbered⟩
  · simpa using hlater

lemma firstPast_le {interval t now : ℕ} (positive : 0 < interval) (h : t ≤ now + interval) :
    firstPast interval positive now t ≤ now + interval := by
  fun_induction firstPast interval positive now t with
  | case1 t hdue ih => exact ih (by omega)
  | case2 t hdue => exact h

/-- A run that is woken while it holds a rate, with nothing settled, fills up. -/
lemma exists_step {hold : Hold} {interval : Duration} (hstage : r.stage = .sustained hold)
    (hpace : hold.pace = .rate interval) (hpos : 0 < interval.nanos) (h : HasRoom cap r)
    (hnext : r.runner.nextArrival = some next) (hlt : now < hold.deadline)
    (hlimit : now + r.setup.progressInterval < clockLimit) :
    ∃ r', r.step { now, cancelled := false, settled := none } = .ok r' ∧
      Fills cap (arrivalsDue interval.nanos hold.deadline now next) r r' := by
  have hprogress : ∃ r₁, r.reportProgress hold.phase now = .ok r₁ ∧ Fills cap 0 r r₁ ∧
      r₁.runner.nextArrival = r.runner.nextArrival := by
    obtain ⟨-, hle, -⟩ := h
    have hready : now < r.runner.nextProgress ∨ firstPast r.setup.progressInterval
        r.setup.progressInterval_pos now r.runner.nextProgress < clockLimit := by
      by_cases hearly : now < r.runner.nextProgress
      · exact .inl hearly
      · exact .inr ((firstPast_le _ (by omega)).trans_lt hlimit)
    obtain ⟨r₁, hreport⟩ := (exists_reportProgress r hold.phase now).2 hready
    refine ⟨r₁, hreport, ?_⟩
    obtain ⟨-, rfl⟩ | ⟨-, elapsed, nextProgress, -, -, rfl⟩ := reportProgress_ok hreport
    · exact ⟨⟨rfl, rfl, by omega, rfl⟩, rfl⟩
    · refine ⟨⟨rfl, rfl, ?_, rfl⟩, rfl⟩
      change r.runner.inFlight.length = _
      omega
  obtain ⟨r₁, hprogress, hwoken, hsame⟩ := hprogress
  obtain ⟨r', hissue, hfills, -⟩ :=
    exists_issueDue hpace hpos (hwoken.hasRoom h) (hsame.trans hnext) now
  refine ⟨r', ?_, by simpa using hwoken.trans hfills⟩
  simp only [Run.step, hstage, Run.record, Bool.false_eq_true, if_false, bind, Except.bind,
    hprogress, if_neg (not_le.2 hlt), hissue]

end Filling

/-- A run at a rate without warmup and rise that is woken late, with nothing settled, is full. -/
lemma exists_full {setup : Setup} {x : Float} {cap now deadline time : ℕ}
    (hschedule : setup.schedule = .rate x) (hpos : 0 < (arrivalInterval x).nanos)
    (hcap : setup.spec.maxInFlight = some cap) (hleast : 0 < cap) (hwarmup : setup.warmupCount = 0)
    (hrise : setup.spec.rampUp.isZero = true) (hids : setup.firstId + cap < wordLimit)
    (hdeadline : setup.spec.duration.past now = .ok deadline)
    (hlate : now + (arrivalInterval x).nanos * (cap - 1) ≤ time) (hlt : time < deadline)
    (hprogress : time + setup.progressInterval < clockLimit) (calls : ℕ) :
    ∃ first r, Run.start setup calls false now = .ok first ∧
      first.step { now := time, cancelled := false, settled := none } = .ok r ∧
      r.runner.inFlight.length = cap := by
  obtain ⟨opened, hopened⟩ : ∃ opened, opened = (Run.opened setup calls now).measured now :=
    ⟨_, rfl⟩
  have hsetup : opened.setup = setup := by simp [hopened, Run.opened]
  have hrunner : opened.runner =
      { clock := now, nextId := setup.firstId, nextProgress := now + setup.progressInterval } := by
    simp [hopened, Run.opened]
  have hroom : HasRoom cap opened := by
    refine ⟨hsetup ▸ hcap, ?_, ?_⟩
    · rw [hrunner]
      exact Nat.zero_le cap
    · rw [hrunner]
      exact hids
  obtain ⟨first, hold, hbegin, hfills, hstage, hpace, hover, hnext⟩ :=
    exists_beginSustained (r := opened) (hsetup ▸ hschedule) hpos hroom (by rw [hrunner])
      (hsetup ▸ hdeadline) (by omega)
  have hlimit : time + first.setup.progressInterval < clockLimit := by rwa [hfills.setup, hsetup]
  obtain ⟨r, hstep, hfills'⟩ := exists_step hstage hpace hpos (hfills.hasRoom hroom) hnext
    (hover ▸ hlt) hlimit
  refine ⟨first, r, ?_, hstep, ?_⟩
  · have hsteps :
        setup.schedule.rampSteps setup.spec.rampUp setup.settings.maxRampSteps = .ok [] := by
      unfold Schedule.rampSteps
      rw [hrise]
      rfl
    have hreading : clockReading opened.runner.nextProgress = .ok (now + setup.progressInterval) := by
      rw [hrunner, clockReading_eq_ok]
      dsimp only
      omega
    unfold Run.start Run.beginMeasured
    simp only [hwarmup, if_true, ← hopened, hsetup, hreading, hsteps, bind, Except.bind]
    exact hbegin
  · -- The arrivals that are due by then are at least as many as the limit.
    have hdue : cap - 1 ≤ arrivalsDue (arrivalInterval x).nanos hold.deadline time
        (now + (arrivalInterval x).nanos) := by
      by_contra! hfew
      obtain ⟨k, rfl⟩ : ∃ k, cap = k + 2 := ⟨cap - 2, by omega⟩
      have hk : ¬k < arrivalsDue (arrivalInterval x).nanos hold.deadline time
          (now + (arrivalInterval x).nanos) := by omega
      rw [lt_arrivalsDue_iff hpos, hover] at hk
      have hmul : (arrivalInterval x).nanos * (k + 2 - 1) =
          (arrivalInterval x).nanos * k + (arrivalInterval x).nanos := Nat.mul_succ _ k
      omega
    have hlength := (hfills.trans hfills').inFlight
    rw [hrunner] at hlength
    simp only [List.length_nil] at hlength
    omega

/-! ### All workers together -/

/-- The requests in flight of several runs. -/
def totalInFlight (runs : List Run) : ℕ := (runs.map fun r => r.runner.inFlight.length).sum

/-- The generator of the worker that carries a share. -/
def shareGenerator (c : Coordinator) (script : Script) (spec : Spec) (workers calls : ℕ)
    (p : WorkerPartition) : Generator :=
  c.workerGenerator script workers calls (WorkerTask.ofPartition p spec)

/-- The worker of a share passes the state `r` at `now`. -/
def WorkerAt (c : Coordinator) (script : Script) (spec : Spec) (workers now : ℕ)
    (p : WorkerPartition) (r : Run) : Prop :=
  ∃ calls schedule place cancelled, (p.workerSpec spec).validate = .ok schedule ∧
    Passes ((shareGenerator c script spec workers calls p).setup (p.workerSpec spec) schedule) calls
      place now cancelled r

section Workers

variable {c : Coordinator} {script : Script} {spec : Spec} {x : Float} {cap now : ℕ}
  {ps : List WorkerPartition} {runs : List Run}

lemma totalInFlight_le {workers : ℕ} (hcap : spec.maxInFlight = some cap)
    (hrate : ∀ p ∈ ps, ∃ y, p.requestsPerSecond = some y)
    (h : List.Forall₂ (WorkerAt c script spec workers now) ps runs) :
    totalInFlight runs ≤ ps.length * cap := by
  induction h with
  | nil => exact Nat.zero_le _
  | @cons p r ps runs hworker _ ih =>
    obtain ⟨calls, schedule, place, cancelled, hvalid, hpasses⟩ := hworker
    obtain ⟨y, hy⟩ := hrate p List.mem_cons_self
    have hlimit : r.runner.inFlight.length ≤ cap := by
      obtain ⟨hschedule, -⟩ := validate_eq_ok.1 hvalid
      have hload : schedule = .rate y := by
        unfold WorkerPartition.workerSpec Spec.schedule? at hschedule
        rw [hy] at hschedule
        dsimp only at hschedule
        split at hschedule
        · cases hschedule
        · exact (Except.ok.inj hschedule).symm
      exact (passes_limited hpasses).cap y cap hload hcap
    have hrest := ih fun q hq => hrate q (List.mem_cons_of_mem _ hq)
    have hsum : totalInFlight (r :: runs) = r.runner.inFlight.length + totalInFlight runs :=
      List.sum_cons
    rw [hsum, List.length_cons, Nat.succ_mul]
    omega

/-- The worker of a share, once it has been started and then woken at `now` with nothing settled. -/
def WokenLate (c : Coordinator) (script : Script) (spec : Spec) (workers calls now : ℕ)
    (schedule : Schedule) (p : WorkerPartition) (r : Run) : Prop :=
  ∃ first, Run.start
      ((shareGenerator c script spec workers calls p).setup (p.workerSpec spec) schedule) calls false
      (shareGenerator c script spec workers calls p).now = .ok first ∧
    first.step { now, cancelled := false, settled := none } = .ok r

lemma workerAt_of_wokenLate {workers calls : ℕ} {schedule : Schedule} {p : WorkerPartition} {r : Run}
    (hvalid : (p.workerSpec spec).validate = .ok schedule)
    (hstarted : (shareGenerator c script spec workers calls p).now ≤ now)
    (h : WokenLate c script spec workers calls now schedule p r) :
    WorkerAt c script spec workers now p r := by
  obtain ⟨first, hstart, hstep⟩ := h
  have hreach := Reachable.step (.start hstart) hstarted nofun hstep
  exact ⟨calls, schedule, _, false, hvalid, passes_of_reachable hreach⟩

lemma totalInFlight_of_full {R : WorkerPartition → Run → Prop}
    (h : List.Forall₂ (fun p r => R p r ∧ r.runner.inFlight.length = cap) ps runs) :
    List.Forall₂ R ps runs ∧ totalInFlight runs = ps.length * cap := by
  induction h with
  | nil => exact ⟨.nil, (Nat.zero_mul _).symm⟩
  | @cons p r ps runs hfull _ ih =>
    refine ⟨.cons hfull.1 ih.1, ?_⟩
    have hsum : totalInFlight (r :: runs) = r.runner.inFlight.length + totalInFlight runs :=
      List.sum_cons
    rw [hsum, hfull.2, ih.2, List.length_cons, Nat.succ_mul, Nat.add_comm]

/-- The shares of a rate that is executed without warmup and rise. -/
structure Abrupt (spec : Spec) (cap : ℕ) (ps : List WorkerPartition) : Prop where
  warmup : spec.warmupRequests.getD 0 = 0
  rise : spec.rampUp.isZero = true
  numbers : ∀ p ∈ ps, requestIdBase p.workerIndex + cap < wordLimit

/-- Workers that are woken late are all full at the same time. -/
lemma exists_all_full {deadline : ℕ} (hcap : spec.maxInFlight = some cap)
    (hleast : 0 < cap) (hisPlan : IsPlan (.rate x) spec.rampUp ps.length ps)
    (hvalid : ∀ p ∈ ps, (p.workerSpec spec).validate = .ok (.rate (x / .ofNat ps.length)))
    (habrupt : Abrupt spec cap ps)
    (hpos : 0 < (arrivalInterval (x / .ofNat ps.length)).nanos)
    (hdeadline : spec.duration.past 0 = .ok deadline)
    (hlate : (arrivalInterval (x / .ofNat ps.length)).nanos * (cap - 1) ≤ now)
    (hlt : now < deadline)
    (hprogress : now + max c.generator.progressInterval.nanos 1000000 < clockLimit)
    (script : Script) (calls : ℕ) :
    ∃ runs, List.Forall₂ (fun p r =>
        WokenLate c script spec ps.length calls now (.rate (x / .ofNat ps.length)) p r ∧
          WorkerAt c script spec ps.length now p r) ps runs ∧
      totalInFlight runs = ps.length * cap := by
  have hfull : ∀ p ∈ ps, ∃ r,
      (WokenLate c script spec ps.length calls now (.rate (x / .ofNat ps.length)) p r ∧
        WorkerAt c script spec ps.length now p r) ∧ r.runner.inFlight.length = cap := by
    intro p hp
    have hsoon : (shareGenerator c script spec ps.length calls p).now = 0 := by
      have hzero : spec.rampUp.nanos = 0 := by simpa [Duration.isZero] using habrupt.rise
      have hoffset : p.rampUpOffset.nanos = 0 := by
        rw [(hisPlan.planned p hp).offset, hzero, Nat.zero_mul, Nat.zero_div]
      change wholeMillis p.rampUpOffset.nanos = 0
      rw [hoffset]
      rfl
    obtain ⟨setup, hsetup⟩ : ∃ setup, setup = (shareGenerator c script spec ps.length calls p).setup
        (p.workerSpec spec) (.rate (x / .ofNat ps.length)) := ⟨_, rfl⟩
    have hschedule : setup.schedule = .rate (x / .ofNat ps.length) := by rw [hsetup]; rfl
    have hroom : setup.spec.maxInFlight = some cap := by rw [hsetup]; exact hcap
    have hwarmup : setup.warmupCount = 0 := by rw [hsetup]; exact habrupt.warmup
    have hrise : setup.spec.rampUp.isZero = true := by rw [hsetup]; exact habrupt.rise
    have hids : setup.firstId + cap < wordLimit := by rw [hsetup]; exact habrupt.numbers p hp
    have hend : setup.spec.duration.past 0 = .ok deadline := by rw [hsetup]; exact hdeadline
    obtain ⟨first, r, hstart, hstep, hlength⟩ := exists_full hschedule hpos hroom hleast hwarmup
      hrise hids hend (by rwa [Nat.zero_add]) hlt (by rw [hsetup]; exact hprogress) calls
    have hwoken :
        WokenLate c script spec ps.length calls now (.rate (x / .ofNat ps.length)) p r := by
      refine ⟨first, ?_, hstep⟩
      rw [hsoon, ← hsetup]
      exact hstart
    exact ⟨r, ⟨hwoken, workerAt_of_wokenLate (hvalid p hp) (by omega) hwoken⟩, hlength⟩
  obtain ⟨runs, hruns⟩ := exists_forall₂ hfull
  exact ⟨runs, totalInFlight_of_full hruns⟩

end Workers

/-- The limit on the requests in flight holds once for each worker. Every worker of a rate is given
the whole limit, so that all together never have more in flight than the limit times their number,
whatever they do and in whatever order. That is the best bound: without warmup and rise, and with
reports of progress that the clock can tell, workers that are woken late while nothing settles reach
it at one reading of the clock, so that two workers already exceed the limit of the specification.
-/
theorem in_flight_capped_per_worker (c : Coordinator) (script : Script) (spec : Spec) (rate : Float)
    (cap processors : ℕ) (ps : List WorkerPartition) (hvalid : spec.validate = .ok (.rate rate))
    (hcap : spec.maxInFlight = some cap) (hplan : c.plan spec (.rate rate) processors = .ok ps) :
    (∀ p ∈ ps, (p.workerSpec spec).maxInFlight = some cap ∧
      (p.workerSpec spec).validate = .ok (.rate (rate / .ofNat ps.length))) ∧
    (∀ now runs, List.Forall₂ (WorkerAt c script spec ps.length now) ps runs →
      totalInFlight runs ≤ ps.length * cap) ∧
    (Abrupt spec cap ps → 0 < (arrivalInterval (rate / .ofNat ps.length)).nanos →
      ∀ calls now deadline, spec.duration.past 0 = .ok deadline →
      (arrivalInterval (rate / .ofNat ps.length)).nanos * (cap - 1) ≤ now → now < deadline →
      now + max c.generator.progressInterval.nanos 1000000 < clockLimit →
      ∃ runs, List.Forall₂ (fun p r =>
          WokenLate c script spec ps.length calls now (.rate (rate / .ofNat ps.length)) p r ∧
            WorkerAt c script spec ps.length now p r) ps runs ∧
        totalInFlight runs = ps.length * cap ∧ (1 < ps.length → cap < totalInFlight runs)) := by
  obtain ⟨-, hisPlan⟩ := isPlan_length hplan
  have hleast : 0 < cap := by
    obtain ⟨-, -, -, hroom⟩ := validate_eq_ok.1 hvalid
    rw [hcap] at hroom
    exact Nat.pos_of_ne_zero fun hzero => hroom (congrArg some hzero)
  have hworker : ∀ p ∈ ps, (p.workerSpec spec).validate = .ok (.rate (rate / .ofNat ps.length)) :=
    fun p hp => validate_workerSpec hvalid hplan hp
  refine ⟨fun p hp => ⟨hcap, hworker p hp⟩, fun now runs hruns => ?_, ?_⟩
  · have hrate : ∀ p ∈ ps, ∃ y, p.requestsPerSecond = some y := fun p hp =>
      ⟨_, congrArg Prod.snd (hisPlan.planned p hp).load⟩
    exact totalInFlight_le hcap hrate hruns
  · intro habrupt hinterval calls now deadline hdeadline hlate hlt hprogress
    obtain ⟨runs, hwoken, htotal⟩ := exists_all_full hcap hleast hisPlan hworker habrupt hinterval
      hdeadline hlate hlt hprogress script calls
    refine ⟨runs, hwoken, htotal, ?_⟩
    intro hseveral
    rw [htotal]
    exact (Nat.lt_mul_iff_one_lt_left hleast).2 hseveral

/-- Requests that take five seconds. -/
def slowScript : Script := { calls := [{ delay := .ofMillis 5000 }] }

def threeWorkers : Coordinator := { settings := { maxWorkers := some 3 } }

/-- Thirty requests a second, of which no more than four may be in flight. -/
def fourInFlight : Spec :=
  { requestsPerSecond := some 30.0, duration := .ofMillis 1000, maxInFlight := some 4 }

theorem in_flight_capped_per_worker_three :
    fourInFlight.validate = .ok (.rate 30.0) ∧
    ∃ ps runs, threeWorkers.plan fourInFlight (.rate 30.0) 8 = .ok ps ∧
      List.Forall₂ (WorkerAt threeWorkers slowScript fourInFlight ps.length 300000000) ps runs ∧
      totalInFlight runs = 12 ∧
      ∀ now runs',
        List.Forall₂ (WorkerAt threeWorkers slowScript fourInFlight ps.length now) ps runs' →
        totalInFlight runs' ≤ 12 := by
  have hvalid : fourInFlight.validate = .ok (.rate 30.0) := rfl
  have hlength : ((threeWorkers.plan fourInFlight (.rate 30.0) 8).map List.length).toOption =
      some 3 := by decide +kernel
  obtain ⟨ps, hplan, hlength⟩ : ∃ ps, threeWorkers.plan fourInFlight (.rate 30.0) 8 = .ok ps ∧
      ps.length = 3 := by
    cases hplan : threeWorkers.plan fourInFlight (.rate 30.0) 8 with
    | error =>
      rw [hplan] at hlength
      cases hlength
    | ok ps =>
      rw [hplan] at hlength
      exact ⟨ps, rfl, Option.some.inj hlength⟩
  obtain ⟨-, hbound, hreached⟩ := in_flight_capped_per_worker threeWorkers slowScript fourInFlight
    30.0 4 8 ps hvalid rfl hplan
  have hnumbers : ∀ p ∈ ps, requestIdBase p.workerIndex + 4 < wordLimit := by
    intro p hp
    have hindex := ((isPlan_length hplan).2.planned p hp).index
    unfold requestIdBase wordLimit
    omega
  have hinterval : (arrivalInterval (30.0 / .ofNat ps.length)).nanos = 100000000 := by
    rw [hlength]
    decide +kernel
  obtain ⟨runs, hruns, htotal, -⟩ := hreached ⟨rfl, rfl, hnumbers⟩ (by omega) 0 300000000 (10 ^ 9) rfl
    (by omega) (by decide) (by decide)
  rw [hlength] at htotal hbound
  refine ⟨hvalid, ps, runs, hplan, hruns.imp fun p r h => h.2, htotal, ?_⟩
  rw [hlength]
  exact hbound

def twoWorkers : Coordinator := { settings := { maxWorkers := some 2 } }

/-- Ten requests a second, of which no more than two may be in flight. -/
def twoInFlight : Spec :=
  { requestsPerSecond := some 10.0, duration := .ofMillis 1000, maxInFlight := some 2 }

/-- Two workers of a run with a limit of two have four requests in flight. -/
theorem distributed_cap_exceeded :
    twoInFlight.validate = .ok (.rate 10.0) ∧
    ∃ ps runs, twoWorkers.plan twoInFlight (.rate 10.0) 8 = .ok ps ∧ ps.length = 2 ∧
      List.Forall₂ (WorkerAt twoWorkers slowScript twoInFlight 2 200000000) ps runs ∧
      totalInFlight runs = 4 := by
  have hvalid : twoInFlight.validate = .ok (.rate 10.0) := rfl
  refine ⟨hvalid, ?_⟩
  have hfigures : (do
      let ps ← twoWorkers.plan twoInFlight (.rate 10.0) 8
      let runs ← ps.mapM fun p => do
        let g := shareGenerator twoWorkers slowScript twoInFlight 2 0 p
        let setup := g.setup (p.workerSpec twoInFlight) (.rate (10.0 / Float.ofNat 2))
        let first ← Run.start setup 0 false 0
        first.step { now := 200000000, cancelled := false, settled := none }
      return (ps.length, totalInFlight runs)).toOption = some (2, 4) := by decide +kernel
  obtain ⟨ps, hplan, hfigures⟩ := bind_eq_ok.1 (ok_of_toOption hfigures)
  obtain ⟨runs, hruns, hfigures⟩ := bind_eq_ok.1 hfigures
  obtain ⟨hlength, htotal⟩ := Prod.mk.inj (Except.ok.inj hfigures)
  refine ⟨ps, runs, hplan, hlength, ?_, htotal⟩
  have hworker : ∀ p ∈ ps, (p.workerSpec twoInFlight).validate = .ok (.rate (10.0 / .ofNat 2)) := by
    intro p hp
    rw [← hlength]
    exact validate_workerSpec hvalid hplan hp
  have hpairs := (List.forall₂_and_left ps runs).2 ⟨hworker, mapM_eq_ok.1 hruns⟩
  refine hpairs.imp fun p r hpair => ?_
  obtain ⟨first, hstart, hstep⟩ := bind_eq_ok.1 hpair.2
  have hreach := Reachable.step (.start hstart) (Nat.zero_le _) nofun hstep
  exact ⟨0, _, _, false, hpair.1, passes_of_reachable hreach⟩

end LoadTest.Proofs
