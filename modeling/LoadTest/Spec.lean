import LoadTest.Failure
import LoadTest.Number.Decimal
import LoadTest.Schedule

/-!
# Specifications of load tests

A specification names its load either as a number of requests in flight or as a rate; `validate`
accepts exactly one of the two and gives the schedule.
-/

namespace LoadTest

structure Spec where
  name : String := "load-test"
  concurrency : Option Nat := none
  requestsPerSecond : Option Float := none
  /-- How long the full load is held. -/
  duration : Duration
  /-- How long the load rises to its full level. -/
  rampUp : Duration := .zero
  /-- How long requests in flight may take once no more are started. -/
  rampDown : Duration := .zero
  requestTimeout : Duration := .ofMillis 30000
  warmupRequests : Option Nat := none
  cooldownRequests : Option Nat := none
  /-- At a fixed rate, how many requests may be in flight. -/
  maxInFlight : Option Nat := none
  deriving Inhabited

namespace Spec

/-- A load test that keeps `users` requests in flight. -/
def ofConcurrency (name : String) (users : Nat) (duration : Duration) : Spec :=
  { name, concurrency := some users, duration }

/-- A load test that starts requests at a rate. -/
def ofRate (name : String) (perSecond : Float) (duration : Duration) : Spec :=
  { name, requestsPerSecond := some perSecond, duration }

def withRampUp (spec : Spec) (rampUp : Duration) : Spec := { spec with rampUp }

def withRampDown (spec : Spec) (rampDown : Duration) : Spec := { spec with rampDown }

def withRequestTimeout (spec : Spec) (requestTimeout : Duration) : Spec :=
  { spec with requestTimeout }

def withWarmup (spec : Spec) (requests : Nat) : Spec := { spec with warmupRequests := some requests }

def withCooldown (spec : Spec) (requests : Nat) : Spec :=
  { spec with cooldownRequests := some requests }

def withMaxInFlight (spec : Spec) (cap : Nat) : Spec := { spec with maxInFlight := some cap }

/-- Why a specification cannot be executed. -/
inductive Flaw where
  | twoLoads
  | noLoad
  | badRate (rate : Float)
  | noDuration
  | noTimeout
  | noRoom

namespace Flaw

def message : Flaw → String
  | .twoLoads => "concurrency and requests_per_second are mutually exclusive"
  | .noLoad => "either concurrency or requests_per_second must be set"
  | .badRate rate => "requests_per_second must be a positive number, got " ++ floatText rate
  | .noDuration => "duration must be greater than zero"
  | .noTimeout => "request_timeout must be greater than zero"
  | .noRoom => "max_in_flight must be greater than zero when set"

def toFailure (flaw : Flaw) : Failure := .invalidSpec flaw.message

end Flaw

/-- The load that a specification names. -/
def schedule? (spec : Spec) : Except Flaw Schedule :=
  match spec.concurrency, spec.requestsPerSecond with
  | some _, some _ => .error .twoLoads
  | none, none => .error .noLoad
  | some users, none => .ok (.concurrency users)
  | none, some rate =>
    if !rate.isFinite || rate ≤ 0.0 then .error (.badRate rate) else .ok (.rate rate)

def validate (spec : Spec) : Except Flaw Schedule := do
  let schedule ← spec.schedule?
  if spec.duration.isZero then .error .noDuration
  else if spec.requestTimeout.isZero then .error .noTimeout
  else if spec.maxInFlight = some 0 then .error .noRoom
  else .ok schedule

def toJson (spec : Spec) : Json :=
  .obj
    [("name", .str spec.name),
     ("concurrency", .ofOption .nat spec.concurrency),
     ("requests_per_second", .ofOption .ofFloat spec.requestsPerSecond),
     ("duration", .ofMillis spec.duration),
     ("ramp_up", .ofMillis spec.rampUp),
     ("ramp_down", .ofMillis spec.rampDown),
     ("request_timeout", .ofMillis spec.requestTimeout),
     ("warmup_requests", .ofOption .nat spec.warmupRequests),
     ("cooldown_requests", .ofOption .nat spec.cooldownRequests),
     ("max_in_flight", .ofOption .nat spec.maxInFlight)]

def fields : List String :=
  ["name", "concurrency", "requests_per_second", "duration", "ramp_up", "ramp_down",
   "request_timeout", "warmup_requests", "cooldown_requests", "max_in_flight"]

def ofJson? (j : Json) : Option Spec := do
  let [name, concurrency, perSecond, duration, rampUp, rampDown, timeout, warmup, cooldown, room] ←
    Json.slots? fields j | none
  let base : Spec := { duration := ← duration.required Json.millis? }
  return { base with
    name := ← name.orElse Json.text? base.name
    concurrency := ← concurrency.orNone Json.dialect Json.word?
    requestsPerSecond := ← perSecond.orNone Json.dialect Json.float?
    rampUp := ← rampUp.orElse Json.millis? base.rampUp
    rampDown := ← rampDown.orElse Json.millis? base.rampDown
    requestTimeout := ← timeout.orElse Json.millis? base.requestTimeout
    warmupRequests := ← warmup.orNone Json.dialect Json.word?
    cooldownRequests := ← cooldown.orNone Json.dialect Json.word?
    maxInFlight := ← room.orNone Json.dialect Json.word? }

end Spec

end LoadTest
