import LoadTest.Distribution.Merge
import LoadTest.Run.Generator

/-!
# Distributed runs

Each worker executes its share of a load test on a thread of its own. A worker whose thread cannot
be started, or that stops with a fault, is lost; the run goes on without it.
-/

namespace LoadTest

/-- A thread cannot have a stack that exceeds the address space, `2 ^ 47` bytes. -/
def addressSpace : Nat := 140737488355328

/-- Executes load tests on several workers. -/
structure Coordinator where
  settings : CoordinatorSettings := {}
  generator : GeneratorSettings := {}
  sampler : SamplerSettings := {}
  host : Host := default

namespace Coordinator

def ofConfig (c : Config) : Coordinator :=
  { settings := c.coordinator, generator := c.generator, sampler := c.sampler }

/-- The shares of a specification, without executing it. -/
def plan (c : Coordinator) (spec : Spec) (schedule : Schedule) (processors : Nat) :
    Except Fault (List WorkerPartition) :=
  schedule.partition spec.rampUp (c.settings.parallelism processors)

/-- The generator of one of `workers` workers. -/
def workerGenerator (c : Coordinator) (script : Script) (workers calls : Nat) (task : WorkerTask) :
    Generator :=
  { settings := c.generator
    sampler := c.sampler
    script
    firstId := task.requestIdBase
    resourceShare := workers
    host := c.host
    now := wholeMillis task.partition.rampUpOffset.nanos
    calls }

/-- Why the thread of a worker cannot be started. -/
def startFailure? (c : Coordinator) (workerIndex : Nat) : Option Failure :=
  if c.settings.threadStackSize.any fun size => addressSpace ≤ size then
    some (.workerFailure workerIndex
      "failed to spawn thread: Resource temporarily unavailable (os error 11)")
  else none

/-- The result that a worker sends when its run is over. -/
def resultOf (workerIndex : Nat) (run : Run) : WorkerResult where
  workerIndex := workerIndex
  outcomes := run.runner.outcomes
  abandonedRequests := run.abandoned.length
  skippedRequests := run.runner.skipped
  resourceSamples := run.resourceSamples
  failure := none

/-- What one worker replies, the number of calls of the target by then, and the time. -/
def workerReply (c : Coordinator) (script : Script) (workers calls : Nat) (task : WorkerTask) :
    Except Failure WorkerResult × Nat × Nat :=
  let index := task.partition.workerIndex
  match c.startFailure? index with
  | some failure => (.error failure, calls, 0)
  | none =>
    match (c.workerGenerator script workers calls task).execute task.spec with
    | .ok (.ok run, g) => (.ok (resultOf index run), g.calls, g.now)
    | .ok (.error failure, g) => (.error (.workerFailure index failure.message), g.calls, g.now)
    | .error _ =>
      (.error (.workerFailure index "worker terminated without reporting a result"), calls, 0)

/-- The replies of all workers, the number of calls, and the time when the last one is done. -/
def replies (c : Coordinator) (script : Script) (spec : Spec) (workers : Nat) :
    List WorkerPartition → Nat → List WorkerReply × Nat × Nat
  | [], calls => ([], calls, 0)
  | partition :: rest, calls =>
    let (reply, calls, time) :=
      c.workerReply script workers calls (WorkerTask.ofPartition partition spec)
    let (others, calls, later) := c.replies script spec workers rest calls
    ({ partition, reply } :: others, calls, max time later)

/-- Executes a specification and merges what the workers reply. The second result counts the calls
of the target. -/
def run (c : Coordinator) (script : Script) (spec : Spec) (processors : Nat) :
    Except Fault (Except Failure (DistributedReport × Nat)) :=
  match spec.validate with
  | .error flaw => .ok (.error flaw.toFailure)
  | .ok schedule => do
    let partitions ← c.plan spec schedule processors
    if longestList < c.generator.eventBuffer then .error .tooLarge
    else if partitions.isEmpty then
      let g : Generator :=
        { settings := c.generator, sampler := c.sampler, script, host := c.host }
      let (run, g) ← g.play spec schedule
      match run.report with
      | some report => return .ok ({ report, workers := [] }, g.calls)
      | none => .error .stalled
    else if c.settings.threadName.contains '\x00' then .error .badThreadName
    else
      let (replies, calls, time) := c.replies script spec partitions.length partitions 0
      let work : DistributedRun :=
        { runId := .nil
          spec
          schedule
          startedAt := c.host.wall 0
          finishedAt := c.host.wall time
          elapsed := ← Duration.between 0 time
          sampler := c.sampler
          throughputWindow := c.generator.throughputWindow }
      return .ok (← work.merge replies, calls)

end Coordinator

end LoadTest
