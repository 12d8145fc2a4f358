import LoadTest.Distribution.Worker
import LoadTest.Settings

/-!
# Merging the results of workers

The report of a distributed run is computed from the outcomes of all workers together. A worker that
was lost is charged with the requests expected of it, as failed ones.
-/

namespace LoadTest

/-- The report of a distributed run, with a summary of each worker. -/
structure DistributedReport where
  report : Report
  workers : List WorkerSummary
  deriving Inhabited

namespace DistributedReport

def failedWorkers (r : DistributedReport) : Nat := r.workers.countP fun w => !w.succeeded

def toJson (r : DistributedReport) : Json :=
  .obj [("report", r.report.toJson), ("workers", .ofList WorkerSummary.toJson r.workers)]

def ofJson? (j : Json) : Option DistributedReport := do
  let [report, workers] ← Json.slots? ["report", "workers"] j | none
  return {
    report := ← report.required (Report.ofJson? 1)
    workers := ← workers.required (Json.list? WorkerSummary.ofJson?) }

end DistributedReport

/-- A share of the load, with what its worker replied. -/
structure WorkerReply where
  partition : WorkerPartition
  reply : Except Failure WorkerResult

namespace WorkerReply

/-- The shares of a plan, each with the reply in its place. -/
def pair (partitions : List WorkerPartition) (replies : List (Except Failure WorkerResult)) :
    List WorkerReply :=
  List.zipWith mk partitions replies

/-- The failed outcomes charged to a lost worker. -/
def chargedOutcomes (partition : WorkerPartition) (failure : Failure) (duration : Duration)
    (startedAt : Timestamp) : Except Fault (List Outcome) := do
  let expected := partition.expectedRequests duration
  if longestList < expected then .error .tooLarge
  else
    let cause := RequestFailure.workerLost partition.workerIndex failure.message
    (List.range expected).mapM fun i => do
      Outcome.settled (← checkedWord (requestIdBase partition.workerIndex + i)) startedAt .zero
        (some cause)

/-- The outcomes that a worker contributes. -/
def outcomes (r : WorkerReply) (duration : Duration) (startedAt : Timestamp) :
    Except Fault (List Outcome) :=
  match r.reply with
  | .ok result => .ok result.outcomes
  | .error failure => chargedOutcomes r.partition failure duration startedAt

def abandonedRequests (r : WorkerReply) : Nat :=
  match r.reply with
  | .ok result => result.abandonedRequests
  | .error _ => 0

def skippedRequests (r : WorkerReply) : Nat :=
  match r.reply with
  | .ok result => result.skippedRequests
  | .error _ => 0

/-- The series of a worker that took samples. -/
def series? (r : WorkerReply) : Option (List ResourceSample) :=
  match r.reply with
  | .ok result => if result.resourceSamples.isEmpty then none else some result.resourceSamples
  | .error _ => none

def failure? (r : WorkerReply) : Option String :=
  match r.reply with
  | .ok _ => none
  | .error failure => some failure.message

def summary (r : WorkerReply) (recordedRequests : Nat) : WorkerSummary where
  workerIndex := r.partition.workerIndex
  users := r.partition.users
  requestsPerSecond := r.partition.requestsPerSecond
  rampUpOffset := r.partition.rampUpOffset
  recordedRequests := recordedRequests
  failure := r.failure?

end WorkerReply

/-- What is known of a distributed run apart from its replies. -/
structure DistributedRun where
  runId : RunId
  spec : Spec
  schedule : Schedule
  startedAt : Timestamp
  finishedAt : Timestamp
  elapsed : Duration
  sampler : SamplerSettings
  throughputWindow : Duration

namespace DistributedRun

/-- Merges the replies, in the order of the workers. -/
def merge (run : DistributedRun) (replies : List WorkerReply) : Except Fault DistributedReport := do
  let outcomes ← replies.mapM fun r => r.outcomes run.spec.duration run.startedAt
  let abandonedRequests ← checkedWord ((replies.map WorkerReply.abandonedRequests).foldr (· + ·) 0)
  let skippedRequests ← checkedWord ((replies.map WorkerReply.skippedRequests).foldr (· + ·) 0)
  let resourceSamples := ResourceSample.sumSeries (replies.filterMap WorkerReply.series?)
  let record : RunRecord :=
    { runId := run.runId
      name := run.spec.name
      schedule := run.schedule
      startedAt := run.startedAt
      finishedAt := run.finishedAt
      elapsed := run.elapsed
      outcomes := outcomes.flatten
      abandonedRequests
      skippedRequests
      resourceSamples
      memoryLeak := LeakReport.ofSamples? resourceSamples run.sampler.leakWindow
        run.sampler.leakThresholdBytes
      throughputWindow := run.throughputWindow }
  return {
    report := ← record.report
    workers := (replies.zip outcomes).map fun (r, recorded) => r.summary recorded.length }

end DistributedRun

end LoadTest
