import LoadTest.Latency
import LoadTest.Resource
import LoadTest.Schedule
import LoadTest.Tally
import LoadTest.Throughput

/-!
# Reports

A report summarises the recorded outcomes of a run. It depends on the outcomes only as a collection,
except for the drift of the latencies.
-/

namespace LoadTest

structure Report where
  runId : RunId
  name : String
  schedule : Schedule
  startedAt : Timestamp
  finishedAt : Timestamp
  /-- The time that the measured phases took. -/
  elapsed : Duration
  totalRequests : Nat
  successfulRequests : Nat
  failedRequests : Nat
  timedOutRequests : Nat
  /-- Requests still in flight at the end; they are not part of the total. -/
  abandonedRequests : Nat
  /-- Arrivals dropped because too many requests were in flight. -/
  skippedRequests : Nat
  errorRate : Float
  latency : LatencyStats Float
  throughput : ThroughputStats
  memory : MemoryStats
  errors : Tally
  resourceSamples : List ResourceSample
  memoryLeak : Option (LeakReport Float)
  deriving Inhabited

/-- What a finished run hands over for its report. -/
structure RunRecord where
  runId : RunId
  name : String
  schedule : Schedule
  startedAt : Timestamp
  finishedAt : Timestamp
  elapsed : Duration
  outcomes : List Outcome
  abandonedRequests : Nat
  skippedRequests : Nat
  resourceSamples : List ResourceSample
  memoryLeak : Option (LeakReport Float)
  throughputWindow : Duration

namespace RunRecord

/-- Failed and timed-out requests as a part of all recorded ones. -/
def errorRate (total unsuccessful : Nat) : Float :=
  if total = 0 then 0.0 else Float.ofNat unsuccessful / Float.ofNat total

def perSecond (total : Nat) (elapsed : Duration) : Float :=
  let seconds : Float := elapsed.toSeconds
  if 0.0 < seconds then Float.ofNat total / seconds else 0.0

/-- The report of a run whose outcomes came at the given rates. -/
def reportWith (run : RunRecord) (throughput : ThroughputStats) : Report :=
  let total := run.outcomes.length
  let successful := run.outcomes.countP Outcome.isSuccess
  let timedOut := run.outcomes.countP Outcome.isTimedOut
  let failed := total - successful - timedOut
  let latencies := (run.outcomes.filter Outcome.isSuccess).map Outcome.millis
  { runId := run.runId
    name := run.name
    schedule := run.schedule
    startedAt := run.startedAt
    finishedAt := run.finishedAt
    elapsed := run.elapsed
    totalRequests := total
    successfulRequests := successful
    failedRequests := failed
    timedOutRequests := timedOut
    abandonedRequests := run.abandonedRequests
    skippedRequests := run.skippedRequests
    errorRate := errorRate total (failed + timedOut)
    latency := { LatencyStats.ofLatencies latencies with drift := latencyDrift run.outcomes }
    throughput := { throughput with requestsPerSecond := perSecond total run.elapsed }
    memory := MemoryStats.ofSamples run.resourceSamples
    errors := Tally.ofTexts (run.outcomes.filterMap Outcome.error)
    resourceSamples := run.resourceSamples
    memoryLeak := run.memoryLeak }

def report (run : RunRecord) : Except Fault Report := do
  let throughput ← ThroughputStats.ofOutcomes run.outcomes run.throughputWindow
  return run.reportWith throughput

theorem report_eq_ok {run : RunRecord} {report : Report} :
    run.report = .ok report ↔ ∃ throughput,
      ThroughputStats.ofOutcomes run.outcomes run.throughputWindow = .ok throughput ∧
        report = run.reportWith throughput := by
  rw [RunRecord.report, bind_eq_ok]
  simp only [pure, Except.pure, Except.ok.injEq, eq_comm]

end RunRecord

namespace Report

/-- Whether the counts of a report add up. -/
def isConsistent (r : Report) : Except Fault Bool := do
  let sum ← checkedWord (r.successfulRequests + r.failedRequests + r.timedOutRequests)
  return r.totalRequests = sum

/-- The part of the requests that succeeded; all of them in an empty run. -/
def successRate (r : Report) : Float :=
  if r.totalRequests = 0 then 1.0
  else Float.ofNat r.successfulRequests / Float.ofNat r.totalRequests

def toJson (r : Report) : Json :=
  .obj
    [("run_id", .ofRunId r.runId),
     ("name", .str r.name),
     ("schedule", r.schedule.toJson),
     ("started_at", .ofTimestamp r.startedAt),
     ("finished_at", .ofTimestamp r.finishedAt),
     ("elapsed", .ofDuration r.elapsed),
     ("total_requests", .nat r.totalRequests),
     ("successful_requests", .nat r.successfulRequests),
     ("failed_requests", .nat r.failedRequests),
     ("timed_out_requests", .nat r.timedOutRequests),
     ("abandoned_requests", .nat r.abandonedRequests),
     ("skipped_requests", .nat r.skippedRequests),
     ("error_rate", .ofFloat r.errorRate),
     ("latency", r.latency.toJson),
     ("throughput", r.throughput.toJson),
     ("memory", r.memory.toJson),
     ("errors", Tally.toJson r.errors),
     ("resource_samples", .ofList ResourceSample.toJson r.resourceSamples),
     ("memory_leak", .ofOption LeakReport.toJson r.memoryLeak)]

def fields : List String :=
  ["run_id", "name", "schedule", "started_at", "finished_at", "elapsed", "total_requests",
   "successful_requests", "failed_requests", "timed_out_requests", "abandoned_requests",
   "skipped_requests", "error_rate", "latency", "throughput", "memory", "errors",
   "resource_samples", "memory_leak"]

/-- Reads a report that stands inside `enclosing` arrays and objects. -/
def ofJson? (enclosing : Nat) (j : Json) : Option Report := do
  let [runId, name, schedule, startedAt, finishedAt, elapsed, total, successful, failed, timedOut,
      abandoned, skipped, errorRate, latency, throughput, memory, errors, samples, leak] ←
    Json.slots? fields j | none
  return {
    runId := ← runId.required Json.runId?
    name := ← name.required Json.text?
    schedule := ← schedule.required (Schedule.ofJson? false (enclosing + 1))
    startedAt := ← startedAt.required Json.timestamp?
    finishedAt := ← finishedAt.required Json.timestamp?
    elapsed := ← elapsed.required Json.duration?
    totalRequests := ← total.required Json.word?
    successfulRequests := ← successful.required Json.word?
    failedRequests := ← failed.required Json.word?
    timedOutRequests := ← timedOut.required Json.word?
    abandonedRequests := ← abandoned.required Json.word?
    skippedRequests := ← skipped.required Json.word?
    errorRate := ← errorRate.required Json.float?
    latency := ← latency.required LatencyStats.ofJson?
    throughput := ← throughput.required ThroughputStats.ofJson?
    memory := ← memory.required MemoryStats.ofJson?
    errors := ← errors.required Tally.ofJson?
    resourceSamples := ← samples.required (Json.list? ResourceSample.ofJson?)
    memoryLeak := ← leak.optional Json.dialect LeakReport.ofJson? }

end Report

end LoadTest
