import LoadTest.Distribution.Partition
import LoadTest.Report

/-!
# Workers

What a worker is given and what it hands back. Worker `n` numbers its requests from `n * 2 ^ 40`, so
that no two workers use the same number.
-/

namespace LoadTest

/-- The first request number of a worker. -/
def requestIdBase (workerIndex : Nat) : Nat := workerIndex * 1099511627776 % wordLimit

structure WorkerTask where
  partition : WorkerPartition
  spec : Spec
  requestIdBase : Nat
  deriving Inhabited

namespace WorkerTask

/-- The task of the worker that carries a share of a load test. -/
def ofPartition (partition : WorkerPartition) (spec : Spec) : WorkerTask where
  partition := partition
  spec := partition.workerSpec spec
  requestIdBase := LoadTest.requestIdBase partition.workerIndex

def toJson (t : WorkerTask) : Json :=
  .obj
    [("partition", t.partition.toJson),
     ("spec", t.spec.toJson),
     ("request_id_base", .nat t.requestIdBase)]

def ofJson? (j : Json) : Option WorkerTask := do
  let [partition, spec, base] ← Json.slots? ["partition", "spec", "request_id_base"] j | none
  return {
    partition := ← partition.required WorkerPartition.ofJson?
    spec := ← spec.required Spec.ofJson?
    requestIdBase := ← base.required Json.word? }

end WorkerTask

structure WorkerResult where
  workerIndex : Nat
  outcomes : List Outcome
  abandonedRequests : Nat
  skippedRequests : Nat
  /-- The worker's share of the samples of the process. -/
  resourceSamples : List ResourceSample
  /-- Why the worker could not execute its task. -/
  failure : Option String
  deriving Inhabited

namespace WorkerResult

def toJson (r : WorkerResult) : Json :=
  .obj
    [("worker_index", .nat r.workerIndex),
     ("outcomes", .ofList Outcome.toJson r.outcomes),
     ("abandoned_requests", .nat r.abandonedRequests),
     ("skipped_requests", .nat r.skippedRequests),
     ("resource_samples", .ofList ResourceSample.toJson r.resourceSamples),
     ("failure", .ofOption .str r.failure)]

def fields : List String :=
  ["worker_index", "outcomes", "abandoned_requests", "skipped_requests", "resource_samples",
   "failure"]

def ofJson? (j : Json) : Option WorkerResult := do
  let [index, outcomes, abandoned, skipped, samples, failure] ← Json.slots? fields j | none
  return {
    workerIndex := ← index.required Json.word?
    outcomes := ← outcomes.required (Json.list? Outcome.ofJson?)
    abandonedRequests := ← abandoned.required Json.word?
    skippedRequests := ← skipped.required Json.word?
    resourceSamples := ← samples.required (Json.list? ResourceSample.ofJson?)
    failure := ← failure.optional Json.dialect Json.text? }

end WorkerResult

/-- How one worker fared. -/
structure WorkerSummary where
  workerIndex : Nat
  users : Nat
  requestsPerSecond : Option Float
  rampUpOffset : Duration
  /-- Outcomes that the worker contributed or was charged with. -/
  recordedRequests : Nat
  /-- Why the worker was lost. -/
  failure : Option String
  deriving Inhabited

namespace WorkerSummary

def succeeded (s : WorkerSummary) : Bool := s.failure.isNone

def toJson (s : WorkerSummary) : Json :=
  .obj
    [("worker_index", .nat s.workerIndex),
     ("users", .nat s.users),
     ("requests_per_second", .ofOption .ofFloat s.requestsPerSecond),
     ("ramp_up_offset", .ofMillis s.rampUpOffset),
     ("recorded_requests", .nat s.recordedRequests),
     ("failure", .ofOption .str s.failure)]

def fields : List String :=
  ["worker_index", "users", "requests_per_second", "ramp_up_offset", "recorded_requests",
   "failure"]

def ofJson? (j : Json) : Option WorkerSummary := do
  let [index, users, perSecond, offset, recorded, failure] ← Json.slots? fields j | none
  return {
    workerIndex := ← index.required Json.word?
    users := ← users.required Json.word?
    requestsPerSecond := ← perSecond.optional Json.dialect Json.float?
    rampUpOffset := ← offset.required Json.millis?
    recordedRequests := ← recorded.required Json.word?
    failure := ← failure.optional Json.dialect Json.text? }

end WorkerSummary

end LoadTest
