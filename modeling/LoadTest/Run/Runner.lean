import LoadTest.Ramp
import LoadTest.Request
import LoadTest.Run.Journal

/-!
# The measured part of a run

A runner numbers the requests that it starts, keeps those in flight and records the outcomes of
those that settle. It reports progress at a fixed interval.
-/

namespace LoadTest

/-- Clock readings stay below this one, `2 ^ 63` seconds. -/
def clockLimit : Nat := 9223372036854775808 * 1000000000

/-- A reading of the clock, if it is below the limit. -/
def clockReading (t : Nat) : Except Fault Nat :=
  if t < clockLimit then .ok t else .error .overflow

/-- The reading a given duration after another one. -/
def Duration.past (d : Duration) (t : Nat) : Except Fault Nat := clockReading (t + d.nanos)

/-- The time from one reading to a later one. -/
def Duration.between (start finish : Nat) : Except Fault Duration :=
  match Duration.ofNanos? (finish - start) with
  | some d => .ok d
  | none => .error .overflow

/-- A request that has been started and has not settled. -/
structure Pending where
  id : Nat
  /-- How many calls of the target were made before this one. -/
  call : Nat
  startedAt : Nat
  deriving DecidableEq, Repr, Inhabited

/-- A request that settles. -/
structure Settlement where
  id : Nat
  ending : Ending

structure Runner where
  /-- When the measured part began. -/
  clock : Nat
  /-- The number of the next request. -/
  nextId : Nat
  inFlight : List Pending := []
  /-- Outcomes in the order in which the requests settled. -/
  outcomes : List Outcome := []
  /-- At a rate, when the next request is due. -/
  nextArrival : Option Nat := none
  /-- Arrivals for which there was no room. -/
  skipped : Nat := 0
  nextProgress : Nat
  deriving Inhabited

namespace Runner

/-- Starts a request at `now`, as call number `call` of the target. -/
def issue (r : Runner) (call : Nat) (now : Nat) : Except Fault Runner :=
  if r.nextId + 1 < wordLimit then
    .ok { r with
      nextId := r.nextId + 1
      inFlight := r.inFlight ++ [{ id := r.nextId, call, startedAt := now }] }
  else .error .overflow

/-- Records the outcome of a request in flight. -/
def record (r : Runner) (wall : Nat → Timestamp) (timeout : Duration) (now : Nat)
    (s : Settlement) : Except Fault Runner :=
  match r.inFlight.find? fun p => p.id = s.id with
  | none => .ok r
  | some p => do
    let duration ← Duration.between p.startedAt now
    let outcome ← Outcome.settled p.id (wall p.startedAt) duration (s.ending.failure? timeout)
    return { r with
      inFlight := r.inFlight.filter fun q => q.id ≠ s.id
      outcomes := r.outcomes ++ [outcome] }

/-- Whether no more than `cap` requests may be in flight, and that many are. -/
def isFull (r : Runner) (cap : Option Nat) : Bool :=
  match cap with
  | some cap => cap ≤ r.inFlight.length
  | none => false

end Runner

/-- The first of the readings `t`, `t + interval`, … that lies past `now`. -/
def firstPast (interval : Nat) (positive : 0 < interval) (now t : Nat) : Nat :=
  if t ≤ now then firstPast interval positive now (t + interval) else t
termination_by now + 1 - t

end LoadTest
