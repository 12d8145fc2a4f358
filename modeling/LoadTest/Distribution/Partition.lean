import LoadTest.Number.Rounding
import LoadTest.Spec

/-!
# Splitting a load over workers

Users are dealt out in equal shares, the last worker taking what is left over; a rate is divided
evenly. The workers start to rise one after the other, spread over the time of the rise.
-/

namespace LoadTest

/-- No list is longer than `2 ^ 48`: it would not fit in memory. -/
def longestList : Nat := 281474976710656

/-- The share of a load that one worker carries. -/
structure WorkerPartition where
  workerIndex : Nat
  /-- Requests to keep in flight; zero for a share of a rate. -/
  users : Nat
  requestsPerSecond : Option Float
  /-- How long the worker waits before it begins to rise. -/
  rampUpOffset : Duration
  deriving Inhabited

/-- Shares of `total` for each of `workers`, with the remainder in the last one. -/
def splitUsers (total workers : Nat) : Except Fault (List Nat) :=
  if longestList < workers then .error .tooLarge
  else
    match workers with
    | 0 => .ok []
    | n + 1 => .ok (List.replicate n (total / (n + 1)) ++ [total / (n + 1) + total % (n + 1)])

/-- A count in 32 bits: what is above them is cut off. -/
def halfWord (n : Nat) : Nat := n % 4294967296

/-- How long one of some workers waits before it begins to rise: the rise times its number, divided by
how many they are. Both are taken in 32 bits. -/
def startOffset (rampUp : Duration) (workerIndex workers : Nat) : Except Fault Duration := do
  let product ← rampUp.times (halfWord workerIndex)
  if halfWord workers = 0 then .error .divisionByZero
  else return product.part (halfWord workers)

namespace WorkerPartition

/-- The specification that a worker executes. -/
def workerSpec (p : WorkerPartition) (spec : Spec) : Spec :=
  { spec with
    name := spec.name ++ "/worker-" ++ toString p.workerIndex
    concurrency := match p.requestsPerSecond with
      | some _ => none
      | none => some p.users
    requestsPerSecond := p.requestsPerSecond }

/-- The requests charged to a worker that is lost: one for each user, or its rate times the
duration. -/
def expectedRequests (p : WorkerPartition) (duration : Duration) : Nat :=
  match p.requestsPerSecond with
  | some rate => nearestCount (rate * duration.toSeconds)
  | none => p.users

def toJson (p : WorkerPartition) : Json :=
  .obj
    [("worker_index", .nat p.workerIndex),
     ("users", .nat p.users),
     ("requests_per_second", .ofOption .ofFloat p.requestsPerSecond),
     ("ramp_up_offset", .ofMillis p.rampUpOffset)]

def ofJson? (j : Json) : Option WorkerPartition := do
  let [index, users, perSecond, offset] ←
    Json.slots? ["worker_index", "users", "requests_per_second", "ramp_up_offset"] j | none
  return {
    workerIndex := ← index.required Json.word?
    users := ← users.required Json.word?
    requestsPerSecond := ← perSecond.optional Json.dialect Json.float?
    rampUpOffset := ← offset.required Json.millis? }

end WorkerPartition

namespace Schedule

/-- The number of workers for a rate: one for each request per second, at least one and at most
`parallelism`. -/
def rateWorkers (rate : Float) (parallelism : Nat) : Nat :=
  min (max (ceilingCount rate) 1) parallelism

/-- The users and the rate of each worker. -/
def shares (schedule : Schedule) (parallelism : Nat) : Except Fault (List (Nat × Option Float)) :=
  match schedule with
  | .concurrency users => do
    return (← splitUsers users (min users parallelism)).map fun share => (share, none)
  | .rate perSecond =>
    let workers := rateWorkers perSecond parallelism
    if longestList < workers then .error .tooLarge
    else .ok (List.replicate workers (0, some (perSecond / Float.ofNat workers)))

/-- Splits a schedule over at most `parallelism` workers. -/
def partition (schedule : Schedule) (rampUp : Duration) (parallelism : Nat) :
    Except Fault (List WorkerPartition) := do
  let shares ← schedule.shares (max parallelism 1)
  shares.zipIdx.mapM fun ((users, requestsPerSecond), workerIndex) => do
    let rampUpOffset ← startOffset rampUp workerIndex shares.length
    return { workerIndex, users, requestsPerSecond, rampUpOffset }

end Schedule

end LoadTest
