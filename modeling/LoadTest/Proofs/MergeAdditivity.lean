import Mathlib
import LoadTest.Distribution.Merge
import LoadTest.Proofs.ThroughputWindows

/-!
# The figures of a merged report

The report of a distributed run adds up what its workers recorded. A worker that was lost counts as
the failed requests that were expected of it, and as nothing else. `Contributes` says what one reply
adds to the outcomes of the run, and each figure of the report is a sum over the replies because it
is a sum over the outcomes.
-/

namespace LoadTest.Proofs

section Replies

variable (duration : Duration) (r : WorkerReply)

/-- The requests that a worker recorded or is charged with. -/
def recordedBy : Nat :=
  match r.reply with
  | .ok result => result.outcomes.length
  | .error _ => r.partition.expectedRequests duration

/-- How many of them ended in a given way: those charged failed. -/
def endedBy (status : Outcome.Status) : Nat :=
  match r.reply with
  | .ok result => result.outcomes.countP fun o => o.status = status
  | .error _ => if status = .failed then r.partition.expectedRequests duration else 0

/-- How many of them ended with a given message: those charged with that of a lost worker. -/
def toldBy (message : String) : Nat :=
  match r.reply with
  | .ok result => (result.outcomes.filterMap Outcome.error).count message
  | .error failure =>
    if (RequestFailure.workerLost r.partition.workerIndex failure.message).message = message then
      r.partition.expectedRequests duration
    else 0

/-- The latencies of the requests that succeeded. -/
def latenciesOf : List Float :=
  match r.reply with
  | .ok result => (result.outcomes.filter Outcome.isSuccess).map Outcome.millis
  | .error _ => []

def isLost : Bool :=
  match r.reply with
  | .ok _ => false
  | .error _ => true

/-- What is told of a worker: its share, the requests that it recorded or is charged with, and how it
was lost. -/
def summaryOf : WorkerSummary where
  workerIndex := r.partition.workerIndex
  users := r.partition.users
  requestsPerSecond := r.partition.requestsPerSecond
  rampUpOffset := r.partition.rampUpOffset
  recordedRequests := recordedBy duration r
  failure :=
    match r.reply with
    | .ok _ => none
    | .error failure => some failure.message

/-- What a reply adds to the outcomes of the run. -/
structure Contributes (outcomes : List Outcome) : Prop where
  length : outcomes.length = recordedBy duration r
  status : ∀ status, outcomes.countP (fun o => o.status = status) = endedBy duration r status
  message : ∀ message,
    (outcomes.filterMap Outcome.error).count message = toldBy duration r message
  latencies : (outcomes.filter Outcome.isSuccess).map Outcome.millis = latenciesOf r

end Replies

/-- The results among some replies. -/
def resultsOf (replies : List WorkerReply) : List WorkerResult :=
  replies.filterMap fun r => r.reply.toOption

/-- The figures of a merged report are those of the replies. -/
structure AddsUp (duration : Duration) (replies : List WorkerReply) (d : DistributedReport) :
    Prop where
  workers : d.workers = replies.map (summaryOf duration)
  total : d.report.totalRequests = (d.workers.map WorkerSummary.recordedRequests).sum
  successful : d.report.successfulRequests = (replies.map (endedBy duration · .success)).sum
  failed : d.report.failedRequests = (replies.map (endedBy duration · .failed)).sum
  timedOut : d.report.timedOutRequests = (replies.map (endedBy duration · .timedOut)).sum
  abandoned : d.report.abandonedRequests =
    ((resultsOf replies).map WorkerResult.abandonedRequests).sum
  skipped : d.report.skippedRequests = ((resultsOf replies).map WorkerResult.skippedRequests).sum
  errors : ∀ message, d.report.errors.get? message =
    let count := (replies.map (toldBy duration · message)).sum
    if count = 0 then none else some count
  latency : { d.report.latency with drift := Scalar.zero } =
    LatencyStats.ofLatencies (replies.flatMap latenciesOf)
  failedWorkers : d.failedWorkers = replies.countP isLost

/-- The counts of a merged report stay within their ranges. -/
structure Fits (run : DistributedRun) (replies : List WorkerReply) : Prop where
  abandoned : ((resultsOf replies).map WorkerResult.abandonedRequests).sum < wordLimit
  skipped : ((resultsOf replies).map WorkerResult.skippedRequests).sum < wordLimit
  charged : ∀ r ∈ replies, isLost r = true →
    r.partition.expectedRequests run.spec.duration ≤ longestList ∧
      requestIdBase r.partition.workerIndex + r.partition.expectedRequests run.spec.duration ≤
        wordLimit
  started : run.startedAt.seconds < lastSecond
  window : run.throughputWindow.millis < 2 ^ 63

/-! ### The outcomes of one reply -/

section Outcomes

variable {duration : Duration} {startedAt : Timestamp} {outcomes : List Outcome}

/-- Every request that is charged failed because its worker was lost. -/
lemma settled_failure_ok {id : Nat} {cause : RequestFailure} {o : Outcome}
    (hcause : cause.isTimeout = false)
    (h : Outcome.settled id startedAt duration (some cause) = .ok o) :
    o.status = .failed ∧ o.error = some cause.message := by
  obtain ⟨endedAt, -, ho⟩ := bind_eq_ok.1 h
  cases ho
  simp [hcause]

lemma chargedOutcomes_ok {partition : WorkerPartition} {failure : Failure}
    (h : WorkerReply.chargedOutcomes partition failure duration startedAt = .ok outcomes) :
    outcomes.length = partition.expectedRequests duration ∧
      ∀ o ∈ outcomes, o.status = .failed ∧ o.error =
        some (RequestFailure.workerLost partition.workerIndex failure.message).message := by
  unfold WorkerReply.chargedOutcomes at h
  dsimp only at h
  split at h
  · cases h
  · refine ⟨by simpa using (mapM_eq_ok.1 h).length_eq.symm, fun o ho => ?_⟩
    obtain ⟨i, -, hi⟩ := exists_of_mem_mapM h ho
    obtain ⟨id, -, hsettled⟩ := bind_eq_ok.1 hi
    exact settled_failure_ok rfl hsettled

lemma contributes_of_outcomes {r : WorkerReply} (h : r.outcomes duration startedAt = .ok outcomes) :
    Contributes duration r outcomes := by
  unfold WorkerReply.outcomes at h
  cases hreply : r.reply with
  | ok result =>
    rw [hreply] at h
    cases h
    constructor <;> simp [recordedBy, endedBy, toldBy, latenciesOf, hreply]
  | error failure =>
    rw [hreply] at h
    obtain ⟨hlength, hall⟩ := chargedOutcomes_ok h
    constructor
    · simp [recordedBy, hreply, hlength]
    · intro status
      by_cases hfailed : status = .failed
      · rw [endedBy, hreply, List.countP_eq_length.2 fun o ho => ?_, hlength, if_pos hfailed]
        simp [(hall o ho).1, hfailed]
      · rw [endedBy, hreply, List.countP_eq_zero.2 fun o ho => ?_, if_neg hfailed]
        simpa [(hall o ho).1] using Ne.symm hfailed
    · intro message
      rw [List.filterMap_congr fun o ho => (hall o ho).2, List.filterMap_eq_map', List.map_const',
        List.count_replicate, hlength, toldBy, hreply]
      simp
    · rw [latenciesOf, hreply, List.filter_eq_nil_iff.2 fun o ho => ?_, List.map_nil]
      simp [Outcome.isSuccess, (hall o ho).1]

end Outcomes

/-! ### All replies together -/

section Sums

variable {duration : Duration} {replies : List WorkerReply} {outcomes : List (List Outcome)}

lemma map_of_contributes {γ : Type} {f : List Outcome → γ} {g : WorkerReply → γ}
    (h : List.Forall₂ (Contributes duration) replies outcomes)
    (hfg : ∀ r os, Contributes duration r os → f os = g r) : outcomes.map f = replies.map g := by
  induction h with
  | nil => rfl
  | cons hhead _ ih => rw [List.map_cons, List.map_cons, hfg _ _ hhead, ih]

lemma summary_eq (duration : Duration) (r : WorkerReply) :
    r.summary (recordedBy duration r) = summaryOf duration r := by
  unfold WorkerReply.summary summaryOf WorkerReply.failure?
  cases r.reply <;> rfl

lemma summaries_of_contributes (h : List.Forall₂ (Contributes duration) replies outcomes) :
    (replies.zip outcomes).map (fun (r, recorded) => r.summary recorded.length) =
      replies.map (summaryOf duration) := by
  induction h with
  | nil => rfl
  | cons hhead _ ih =>
    rw [List.zip_cons_cons, List.map_cons, List.map_cons, ih]
    dsimp only
    rw [hhead.length, summary_eq]

/-- A figure to which lost workers add nothing is a sum over the results. -/
lemma sum_eq_sum_results {f : WorkerReply → ℕ} {g : WorkerResult → ℕ}
    (hresult : ∀ r result, r.reply = .ok result → f r = g result)
    (hlost : ∀ r failure, r.reply = .error failure → f r = 0) (replies : List WorkerReply) :
    (replies.map f).sum = ((resultsOf replies).map g).sum := by
  unfold resultsOf
  induction replies with
  | nil => rfl
  | cons r replies ih =>
    cases hreply : r.reply with
    | ok result => simp [hreply, hresult r result hreply, ih, Except.toOption]
    | error failure => simp [hreply, hlost r failure hreply, ih, Except.toOption]

lemma sum_abandoned (replies : List WorkerReply) :
    (replies.map WorkerReply.abandonedRequests).sum =
      ((resultsOf replies).map WorkerResult.abandonedRequests).sum := by
  apply sum_eq_sum_results
  · intro r result hreply
    rw [WorkerReply.abandonedRequests, hreply]
  · intro r failure hreply
    rw [WorkerReply.abandonedRequests, hreply]

lemma sum_skipped (replies : List WorkerReply) :
    (replies.map WorkerReply.skippedRequests).sum =
      ((resultsOf replies).map WorkerResult.skippedRequests).sum := by
  apply sum_eq_sum_results
  · intro r result hreply
    rw [WorkerReply.skippedRequests, hreply]
  · intro r failure hreply
    rw [WorkerReply.skippedRequests, hreply]

lemma countP_status_of_contributes (h : List.Forall₂ (Contributes duration) replies outcomes)
    (status : Outcome.Status) :
    outcomes.flatten.countP (fun o => o.status = status) =
      (replies.map (endedBy duration · status)).sum := by
  rw [List.countP_flatten, map_of_contributes h fun r os hr => hr.status status]

/-- Every outcome is a success, a failure or a timeout. -/
lemma length_eq_countP_status (os : List Outcome) :
    os.length = os.countP (fun o => o.status = .success) + os.countP (fun o => o.status = .failed) +
      os.countP (fun o => o.status = .timedOut) := by
  induction os with
  | nil => rfl
  | cons o os ih =>
    cases hstatus : o.status <;> simp [hstatus, ih] <;> omega

/-- The distribution of latencies leaves the drift at zero. -/
lemma ofLatencies_drift (latencies : List Float) :
    { LatencyStats.ofLatencies latencies with drift := Scalar.zero } =
      LatencyStats.ofLatencies latencies := by
  unfold LatencyStats.ofLatencies
  split <;> rfl

end Sums

/-! ### The merged report -/

section Merged

variable {run : DistributedRun} {replies : List WorkerReply} {d : DistributedReport}

/-- The record of a distributed run to which the workers contributed some outcomes. -/
def mergedRecord (run : DistributedRun) (replies : List WorkerReply)
    (outcomes : List (List Outcome)) : RunRecord :=
  let resourceSamples := ResourceSample.sumSeries (replies.filterMap WorkerReply.series?)
  { runId := run.runId
    name := run.spec.name
    schedule := run.schedule
    startedAt := run.startedAt
    finishedAt := run.finishedAt
    elapsed := run.elapsed
    outcomes := outcomes.flatten
    abandonedRequests := (replies.map WorkerReply.abandonedRequests).sum
    skippedRequests := (replies.map WorkerReply.skippedRequests).sum
    resourceSamples
    memoryLeak := LeakReport.ofSamples? resourceSamples run.sampler.leakWindow
      run.sampler.leakThresholdBytes
    throughputWindow := run.throughputWindow }

def mergedReport (run : DistributedRun) (replies : List WorkerReply)
    (outcomes : List (List Outcome)) (throughput : ThroughputStats) : DistributedReport where
  report := (mergedRecord run replies outcomes).reportWith throughput
  workers := (replies.zip outcomes).map fun (r, recorded) => r.summary recorded.length

lemma merge_eq_ok :
    run.merge replies = .ok d ↔ ∃ outcomes throughput,
      replies.mapM (fun r => r.outcomes run.spec.duration run.startedAt) = .ok outcomes ∧
      (replies.map WorkerReply.abandonedRequests).sum < wordLimit ∧
      (replies.map WorkerReply.skippedRequests).sum < wordLimit ∧
      ThroughputStats.ofOutcomes outcomes.flatten run.throughputWindow = .ok throughput ∧
      d = mergedReport run replies outcomes throughput := by
  constructor
  · intro h
    obtain ⟨outcomes, houtcomes, h⟩ := bind_eq_ok.1 h
    obtain ⟨abandoned, habandoned, h⟩ := bind_eq_ok.1 h
    obtain ⟨skipped, hskipped, h⟩ := bind_eq_ok.1 h
    obtain ⟨report, hreport, h⟩ := bind_eq_ok.1 h
    cases h
    obtain ⟨hfewAbandoned, rfl⟩ := checkedWord_eq_ok.1 habandoned
    obtain ⟨hfewSkipped, rfl⟩ := checkedWord_eq_ok.1 hskipped
    obtain ⟨throughput, hthroughput, rfl⟩ := RunRecord.report_eq_ok.1 hreport
    exact ⟨outcomes, throughput, houtcomes, hfewAbandoned, hfewSkipped, hthroughput, rfl⟩
  · rintro ⟨outcomes, throughput, houtcomes, habandoned, hskipped, hthroughput, rfl⟩
    have hreport : (mergedRecord run replies outcomes).report = .ok _ :=
      RunRecord.report_eq_ok.2 ⟨throughput, hthroughput, rfl⟩
    exact bind_eq_ok.2 ⟨_, houtcomes, bind_eq_ok.2 ⟨_, checkedWord_eq_ok.2 ⟨habandoned, rfl⟩,
      bind_eq_ok.2 ⟨_, checkedWord_eq_ok.2 ⟨hskipped, rfl⟩, bind_eq_ok.2 ⟨_, hreport, rfl⟩⟩⟩⟩

end Merged

lemma merge_addsUp {run : DistributedRun} {replies : List WorkerReply} {d : DistributedReport}
    (h : run.merge replies = .ok d) : AddsUp run.spec.duration replies d := by
  obtain ⟨outcomes, throughput, houtcomes, -, -, -, rfl⟩ := merge_eq_ok.1 h
  have hall : List.Forall₂ (Contributes run.spec.duration) replies outcomes :=
    (mapM_eq_ok.1 houtcomes).imp fun r os => contributes_of_outcomes
  have hworkers : (mergedReport run replies outcomes throughput).workers = _ :=
    summaries_of_contributes hall
  constructor
  case workers => exact hworkers
  case total =>
    have hlength := map_of_contributes hall fun r os hr => hr.length
    rw [hworkers, List.map_map]
    exact List.length_flatten.trans (congrArg List.sum hlength)
  case successful => exact countP_status_of_contributes hall .success
  case timedOut => exact countP_status_of_contributes hall .timedOut
  case failed =>
    -- The report has no count of its own: it takes for failed what neither succeeded nor timed out.
    have hlength := length_eq_countP_status outcomes.flatten
    have hsuccess := countP_status_of_contributes hall .success
    have hfailed := countP_status_of_contributes hall .failed
    have htimedOut := countP_status_of_contributes hall .timedOut
    show outcomes.flatten.length - outcomes.flatten.countP (fun o => o.status = .success) -
      outcomes.flatten.countP (fun o => o.status = .timedOut) = _
    omega
  case abandoned => exact sum_abandoned replies
  case skipped => exact sum_skipped replies
  case errors =>
    intro message
    have hcount := map_of_contributes hall fun r os hr => hr.message message
    show (Tally.ofTexts (outcomes.flatten.filterMap Outcome.error)).get? message = _
    rw [get?_ofTexts, List.filterMap_flatten, List.count_flatten, List.map_map]
    exact congrArg (fun n => if n = 0 then none else some n) (congrArg List.sum hcount)
  case latency =>
    have hlatencies : (outcomes.flatten.filter Outcome.isSuccess).map Outcome.millis =
        replies.flatMap latenciesOf := by
      rw [List.filter_flatten, List.map_flatten, List.map_map, List.flatMap_def,
        ← map_of_contributes hall fun r os hr => hr.latencies]
      rfl
    rw [← hlatencies]
    exact ofLatencies_drift _
  case failedWorkers =>
    rw [DistributedReport.failedWorkers, hworkers, List.countP_map]
    refine List.countP_congr fun r _ => ?_
    unfold isLost
    cases hreply : r.reply <;> simp [summaryOf, WorkerSummary.succeeded, hreply]

/-! ### When a report can be merged -/

section Existence

variable {duration : Duration} {startedAt : Timestamp}

lemma exists_after_zero (startedAt : Timestamp) : ∃ t, startedAt.after .zero = .ok t := by
  obtain ⟨hfirst, hlast, hnanos⟩ := startedAt.valid
  have hzero : Duration.zero.nanos = 0 := rfl
  obtain ⟨t, ht⟩ : ∃ t, startedAt.later? Duration.zero.nanos = some t := by
    unfold Timestamp.later? Timestamp.ofNanos? Timestamp.ofParts?
    rw [hzero]
    by_cases hleap : startedAt.isLeap = true
    · rw [if_pos hleap, if_pos (by omega), dif_pos ⟨hfirst, hlast, hnanos⟩]
      exact ⟨_, rfl⟩
    · have hnanos : startedAt.nanos < 10 ^ 9 := by
        unfold Timestamp.isLeap at hleap
        simpa using hleap
      have hbounds : firstSecond ≤ (startedAt.toNanos + (0 : ℕ)) / 10 ^ 9 ∧
          (startedAt.toNanos + (0 : ℕ)) / 10 ^ 9 ≤ lastSecond := by
        unfold Timestamp.toNanos
        omega
      have hrest : ((startedAt.toNanos + (0 : ℕ)) % 10 ^ 9).toNat < 10 ^ 9 := by omega
      rw [if_neg hleap, dif_pos ⟨hbounds.1, hbounds.2, .inl hrest⟩]
      exact ⟨_, rfl⟩
  refine ⟨t, ?_⟩
  unfold Timestamp.after
  rw [if_pos (hzero ▸ Nat.zero_le _), ht]

lemma exists_settled (id : Nat) (startedAt : Timestamp) (failure : Option RequestFailure) :
    ∃ o, Outcome.settled id startedAt .zero failure = .ok o := by
  obtain ⟨endedAt, hended⟩ := exists_after_zero startedAt
  exact ⟨_, bind_eq_ok.2 ⟨endedAt, hended, rfl⟩⟩

lemma exists_chargedOutcomes {partition : WorkerPartition} {failure : Failure}
    (hlist : partition.expectedRequests duration ≤ longestList)
    (hword : requestIdBase partition.workerIndex + partition.expectedRequests duration ≤ wordLimit) :
    ∃ os, WorkerReply.chargedOutcomes partition failure duration startedAt = .ok os := by
  unfold WorkerReply.chargedOutcomes
  dsimp only
  rw [if_neg (Nat.not_lt.2 hlist)]
  refine exists_mapM_eq_ok fun i hi => ?_
  have hi : i < partition.expectedRequests duration := List.mem_range.1 hi
  obtain ⟨o, ho⟩ := exists_settled (requestIdBase partition.workerIndex + i) startedAt _
  exact ⟨o, bind_eq_ok.2 ⟨_, checkedWord_eq_ok.2 ⟨by omega, rfl⟩, ho⟩⟩

lemma exists_merge {run : DistributedRun} {replies : List WorkerReply} (h : Fits run replies) :
    ∃ d, run.merge replies = .ok d := by
  obtain ⟨outcomes, houtcomes⟩ : ∃ outcomes,
      replies.mapM (fun r => r.outcomes run.spec.duration run.startedAt) = .ok outcomes := by
    refine exists_mapM_eq_ok fun r hr => ?_
    unfold WorkerReply.outcomes
    cases hreply : r.reply with
    | ok result => exact ⟨_, rfl⟩
    | error failure =>
      obtain ⟨hlist, hword⟩ := h.charged r hr (by rw [isLost, hreply])
      exact exists_chargedOutcomes hlist hword
  obtain ⟨throughput, hthroughput⟩ := exists_throughput h.window outcomes.flatten
  refine ⟨_, merge_eq_ok.2 ⟨outcomes, throughput, houtcomes, ?_, ?_, hthroughput, rfl⟩⟩
  · rw [sum_abandoned]
    exact h.abandoned
  · rw [sum_skipped]
    exact h.skipped

end Existence

/-- A run of two workers, of which one recorded a request and the other was lost. -/
def halfLostRun : DistributedRun where
  runId := .nil
  spec := { concurrency := some 5, duration := .ofMillis 1000 }
  schedule := .concurrency 5
  startedAt := .epoch
  finishedAt := .epoch
  elapsed := .ofMillis 1000
  sampler := {}
  throughputWindow := .ofMillis 100

end LoadTest.Proofs
