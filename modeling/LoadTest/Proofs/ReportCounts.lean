import LoadTest.Proofs.MergeAdditivity

/-!
# The counts of a report

A report counts outcomes by how they ended, and the messages of the outcomes that have one. Where an
outcome was made for a request that settled, its status and its message come from the same failure,
so that the two ways of counting agree.
-/

namespace LoadTest.Proofs

/-- An outcome of a request that settled, with the given failure if it did not succeed. -/
def OutcomeOf (o : Outcome) (failure : Option RequestFailure) : Prop :=
  ∃ id startedAt duration, Outcome.settled id startedAt duration failure = .ok o

/-- Whether a request ran out of time. -/
def ranOut : Option RequestFailure → Bool
  | some (.timedOut _) => true
  | _ => false

/-- Whether a request failed in any other way. -/
def brokeOff : Option RequestFailure → Bool
  | some (.failed _) | some (.panicked _) | some (.workerLost ..) => true
  | _ => false

/-- The counts of a report are those of the outcomes. -/
structure CountsOutcomes (outcomes : List Outcome) (r : Report) : Prop where
  total : r.totalRequests = outcomes.length
  successful : r.successfulRequests = outcomes.countP fun o => o.status = .success
  failed : r.failedRequests = outcomes.countP fun o => o.status = .failed
  timedOut : r.timedOutRequests = outcomes.countP fun o => o.status = .timedOut
  addsUp : r.totalRequests = r.successfulRequests + r.failedRequests + r.timedOutRequests
  consistent : outcomes.length < wordLimit → r.isConsistent = .ok true
  told : ∀ message, r.errors.contains message = true ↔ ∃ o ∈ outcomes, o.error = some message
  times : ∀ message n, r.errors.get? message = some n →
    n = outcomes.countP fun o => o.error = some message

/-- The counts of a report are those of the failures. -/
structure CountsFailures (failures : List (Option RequestFailure)) (r : Report) : Prop where
  timedOut : r.timedOutRequests = failures.countP ranOut
  failed : r.failedRequests = failures.countP brokeOff
  messages : (r.errors.entries.map Prod.snd).sum = r.failedRequests + r.timedOutRequests

/-! ### Tallies -/

section Tallies

lemma sum_alterList_succ (text : String) (l : List (String × ℕ)) :
    ((NameMap.alterList text (fun n => n.getD 0 + 1) l).map Prod.snd).sum =
      (l.map Prod.snd).sum + 1 := by
  induction l with
  | nil => rfl
  | cons head rest ih =>
    obtain ⟨first, n⟩ := head
    unfold NameMap.alterList
    by_cases hlt : text < first
    · rw [if_pos hlt]
      simp only [List.map_cons, List.sum_cons, Option.getD_none]
      omega
    · rw [if_neg hlt]
      by_cases heq : text = first
      · rw [if_pos heq]
        simp only [List.map_cons, List.sum_cons, Option.getD_some]
        omega
      · rw [if_neg heq, List.map_cons, List.sum_cons, List.map_cons, List.sum_cons, ih]
        omega

lemma sum_foldl_add (texts : List String) (t : Tally) :
    ((texts.foldl Tally.add t).entries.map Prod.snd).sum =
      (t.entries.map Prod.snd).sum + texts.length := by
  induction texts generalizing t with
  | nil => rfl
  | cons text rest ih =>
    rw [List.foldl_cons, ih, List.length_cons]
    have hadd : ((t.add text).entries.map Prod.snd).sum = (t.entries.map Prod.snd).sum + 1 :=
      sum_alterList_succ text t.entries
    omega

/-- The counts of a tally add up to the number of texts. -/
lemma sum_ofTexts (texts : List String) :
    ((Tally.ofTexts texts).entries.map Prod.snd).sum = texts.length := by
  rw [Tally.ofTexts, sum_foldl_add]
  exact Nat.zero_add _

end Tallies

/-! ### Outcomes and failures -/

section Outcomes

variable {outcomes : List Outcome}

lemma count_filterMap_error (outcomes : List Outcome) (message : String) :
    (outcomes.filterMap Outcome.error).count message =
      outcomes.countP fun o => o.error = some message := by
  rw [List.count_filterMap]
  congr 1
  funext o
  exact beq_eq_decide _ _

/-- How the outcome of a request tells of its failure. -/
lemma status_of_outcomeOf {o : Outcome} {failure : Option RequestFailure} (h : OutcomeOf o failure) :
    (o.status = .timedOut ↔ ranOut failure = true) ∧ (o.status = .failed ↔ brokeOff failure = true) ∧
      (o.error.isSome = true ↔ failure.isSome = true) := by
  obtain ⟨id, startedAt, duration, h⟩ := h
  obtain ⟨endedAt, -, h⟩ := bind_eq_ok.1 h
  cases h
  cases failure with
  | none => simp [ranOut, brokeOff]
  | some cause => cases cause <;> simp [ranOut, brokeOff, RequestFailure.isTimeout]

lemma countP_of_outcomeOf {failures : List (Option RequestFailure)} {p : Outcome → Bool}
    {q : Option RequestFailure → Bool} (h : List.Forall₂ OutcomeOf outcomes failures)
    (hpq : ∀ o failure, OutcomeOf o failure → (p o = true ↔ q failure = true)) :
    outcomes.countP p = failures.countP q := by
  induction h with
  | nil => rfl
  | cons hhead _ ih =>
    rw [List.countP_cons, List.countP_cons, ih]
    simp only [hpq _ _ hhead]

/-- A request that did not succeed ran out of time or failed in another way. -/
lemma countP_isSome (failures : List (Option RequestFailure)) :
    failures.countP Option.isSome = failures.countP brokeOff + failures.countP ranOut := by
  induction failures with
  | nil => rfl
  | cons failure rest ih =>
    have hone : (if failure.isSome = true then 1 else 0) =
        (if brokeOff failure = true then 1 else 0) + if ranOut failure = true then 1 else 0 := by
      cases failure with
      | none => rfl
      | some cause => cases cause <;> rfl
    rw [List.countP_cons, List.countP_cons, List.countP_cons, ih, hone]
    omega

end Outcomes

/-! ### Reports -/

section Reports

variable {run : RunRecord} {report : Report}

/-- What succeeded and what timed out are parts of all outcomes that do not overlap. -/
lemma countP_add_countP_le (outcomes : List Outcome) :
    outcomes.countP Outcome.isSuccess + outcomes.countP Outcome.isTimedOut ≤ outcomes.length := by
  have hlength := length_eq_countP_status outcomes
  unfold Outcome.isSuccess Outcome.isTimedOut
  omega

lemma countsOutcomes_of_report (h : run.report = .ok report) :
    CountsOutcomes run.outcomes report := by
  obtain ⟨throughput, -, rfl⟩ := RunRecord.report_eq_ok.1 h
  have hlength := length_eq_countP_status run.outcomes
  have hfailed : run.outcomes.length - run.outcomes.countP Outcome.isSuccess -
      run.outcomes.countP Outcome.isTimedOut =
        run.outcomes.countP fun o => o.status = .failed := by
    unfold Outcome.isSuccess Outcome.isTimedOut
    omega
  have haddsUp : run.outcomes.length = run.outcomes.countP Outcome.isSuccess +
      (run.outcomes.length - run.outcomes.countP Outcome.isSuccess -
        run.outcomes.countP Outcome.isTimedOut) + run.outcomes.countP Outcome.isTimedOut := by
    have hle := countP_add_countP_le run.outcomes
    omega
  have herrors : ∀ message, (run.reportWith throughput).errors.get? message =
      if (run.outcomes.countP fun o => o.error = some message) = 0 then none
      else some (run.outcomes.countP fun o => o.error = some message) := by
    intro message
    rw [← count_filterMap_error]
    exact get?_ofTexts _ message
  constructor
  case total => rfl
  case successful => rfl
  case failed => exact hfailed
  case timedOut => rfl
  case addsUp => exact haddsUp
  case consistent =>
    intro hword
    apply bind_eq_ok.2
    exact ⟨_, checkedWord_eq_ok.2 ⟨haddsUp ▸ hword, rfl⟩, congrArg Except.ok (decide_eq_true haddsUp)⟩
  case told =>
    intro message
    unfold NameMap.contains
    rw [herrors]
    by_cases hzero : (run.outcomes.countP fun o => o.error = some message) = 0
    · rw [if_pos hzero]
      have hnone := List.countP_eq_zero.1 hzero
      simpa using hnone
    · rw [if_neg hzero]
      have hsome := List.countP_pos_iff.1 (Nat.pos_of_ne_zero hzero)
      simpa using hsome
  case times =>
    intro message n hn
    rw [herrors] at hn
    split at hn
    · cases hn
    · exact (Option.some.inj hn).symm

lemma countsFailures_of_report {failures : List (Option RequestFailure)}
    (h : run.report = .ok report) (hsettled : List.Forall₂ OutcomeOf run.outcomes failures) :
    CountsFailures failures report := by
  have hcounts := countsOutcomes_of_report h
  obtain ⟨throughput, -, rfl⟩ := RunRecord.report_eq_ok.1 h
  have htimedOut : (run.reportWith throughput).timedOutRequests = failures.countP ranOut := by
    rw [hcounts.timedOut]
    apply countP_of_outcomeOf hsettled
    intro o failure ho
    simpa using (status_of_outcomeOf ho).1
  have hfailed : (run.reportWith throughput).failedRequests = failures.countP brokeOff := by
    rw [hcounts.failed]
    apply countP_of_outcomeOf hsettled
    intro o failure ho
    simpa using (status_of_outcomeOf ho).2.1
  have hmessages : (run.outcomes.filterMap Outcome.error).length = failures.countP Option.isSome := by
    rw [List.length_filterMap_eq_countP]
    apply countP_of_outcomeOf hsettled
    intro o failure ho
    exact (status_of_outcomeOf ho).2.2
  constructor
  case timedOut => exact htimedOut
  case failed => exact hfailed
  case messages =>
    rw [htimedOut, hfailed, ← countP_isSome, ← hmessages]
    exact sum_ofTexts _

end Reports

/-- The counts of a report add up and are those of its outcomes, and so are the counts of messages.
Where the outcomes are those of requests that settled, every timeout counts as timed out, every other
failure as failed, and each of them has its message counted. -/
theorem report_counts_outcomes (run : RunRecord) :
    run.outcomes.countP Outcome.isSuccess ≤ run.outcomes.length ∧
    run.outcomes.countP Outcome.isTimedOut ≤
      run.outcomes.length - run.outcomes.countP Outcome.isSuccess ∧
    (run.throughputWindow.millis < 2 ^ 63 → ∃ report, run.report = .ok report) ∧
    ∀ report, run.report = .ok report → CountsOutcomes run.outcomes report ∧
      ∀ failures, List.Forall₂ OutcomeOf run.outcomes failures → CountsFailures failures report := by
  have hle := countP_add_countP_le run.outcomes
  refine ⟨by omega, by omega, ?_, ?_⟩
  · intro hwindow
    obtain ⟨throughput, hthroughput⟩ := exists_throughput hwindow run.outcomes
    exact ⟨_, RunRecord.report_eq_ok.2 ⟨throughput, hthroughput, rfl⟩⟩
  · intro report hreport
    exact ⟨countsOutcomes_of_report hreport, fun failures => countsFailures_of_report hreport⟩

/-- A run of four requests, of which one timed out and two were refused. -/
def refusedRun : RunRecord where
  runId := .nil
  name := "refused"
  schedule := .concurrency 2
  startedAt := .epoch
  finishedAt := ⟨1, 0, by decide⟩
  elapsed := .ofMillis 1000
  outcomes :=
    [{ id := 1, startedAt := .epoch, endedAt := .epoch, duration := .zero, status := .failed,
       error := some "request failed: refused" },
     { id := 0, startedAt := .epoch, endedAt := ⟨0, 100000000, by decide⟩, duration := .ofMillis 100,
       status := .timedOut, error := some "request timed out after 100ms" },
     { id := 3, startedAt := .epoch, endedAt := .epoch, duration := .zero, status := .failed,
       error := some "request failed: refused" },
     { id := 2, startedAt := .epoch, endedAt := ⟨0, 300000000, by decide⟩, duration := .ofMillis 300,
       status := .success, error := none }]
  abandonedRequests := 0
  skippedRequests := 0
  resourceSamples := []
  memoryLeak := none
  throughputWindow := .ofMillis 100

def refusedFailures : List (Option RequestFailure) :=
  [some (.failed "refused"), some (.timedOut 100), some (.failed "refused"), none]

theorem report_counts_outcomes_refused :
    refusedRun.throughputWindow.millis < 2 ^ 63 ∧
    List.Forall₂ OutcomeOf refusedRun.outcomes refusedFailures ∧
    ∃ report, refusedRun.report = .ok report ∧ report.totalRequests = 4 ∧
      report.isConsistent = .ok true ∧ report.timedOutRequests = 1 ∧ report.failedRequests = 2 ∧
      report.errors.contains "request failed: refused" = true ∧
      (report.errors.entries.map Prod.snd).sum = 3 := by
  have hwindow : refusedRun.throughputWindow.millis < 2 ^ 63 := by decide
  have hsettled : List.Forall₂ OutcomeOf refusedRun.outcomes refusedFailures :=
    .cons ⟨1, .epoch, .zero, rfl⟩ (.cons ⟨0, .epoch, .ofMillis 100, rfl⟩
      (.cons ⟨3, .epoch, .zero, rfl⟩ (.cons ⟨2, .epoch, .ofMillis 300, rfl⟩ .nil)))
  obtain ⟨-, -, hexists, hcounts⟩ := report_counts_outcomes refusedRun
  obtain ⟨report, hreport⟩ := hexists hwindow
  obtain ⟨houtcomes, hfailures⟩ := hcounts report hreport
  have hfailures := hfailures refusedFailures hsettled
  have htimedOut : report.timedOutRequests = 1 := hfailures.timedOut
  have hfailed : report.failedRequests = 2 := hfailures.failed
  have hmessages := hfailures.messages
  rw [htimedOut, hfailed] at hmessages
  exact ⟨hwindow, hsettled, report, hreport, houtcomes.total, houtcomes.consistent (by decide),
    htimedOut, hfailed, (houtcomes.told _).2 ⟨_, List.mem_cons_self, rfl⟩, hmessages⟩

end LoadTest.Proofs
