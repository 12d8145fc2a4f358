import LoadTest.Failure
import LoadTest.Json.Record

/-!
# Requests and their outcomes

The outcome of a request holds its start and its duration; the end is derived from the two.
-/

namespace LoadTest

namespace Outcome

inductive Status where
  | success
  | failed
  | timedOut
  deriving DecidableEq, Repr

namespace Status

def name : Status → String
  | .success => "success"
  | .failed => "failed"
  | .timedOut => "timed_out"

def cases : List (String × Status) := [Status.success, .failed, .timedOut].map fun s => (s.name, s)

end Status

end Outcome

structure Outcome where
  id : Nat
  startedAt : Timestamp
  endedAt : Timestamp
  duration : Duration
  status : Outcome.Status
  error : Option String
  deriving DecidableEq

namespace Outcome

/-- The outcome of a request that settled `duration` after its start. -/
def settled (id : Nat) (startedAt : Timestamp) (duration : Duration)
    (failure : Option RequestFailure) : Except Fault Outcome := do
  let endedAt ← startedAt.after duration
  let status := match failure with
    | none => .success
    | some cause => if cause.isTimeout then .timedOut else .failed
  return { id, startedAt, endedAt, duration, status, error := failure.map RequestFailure.message }

def isSuccess (o : Outcome) : Bool := o.status = .success

def isTimedOut (o : Outcome) : Bool := o.status = .timedOut

def isFailed (o : Outcome) : Bool := o.status = .failed

/-- The latency in fractional milliseconds. -/
def millis {α : Type} [Scalar α] (o : Outcome) : α := o.duration.toMillis

def toJson (o : Outcome) : Json :=
  .obj
    [("id", .nat o.id),
     ("started_at", .ofTimestamp o.startedAt),
     ("ended_at", .ofTimestamp o.endedAt),
     ("duration", .ofDuration o.duration),
     ("status", .str o.status.name),
     ("error", .ofOption .str o.error)]

def ofJson? (j : Json) : Option Outcome := do
  let [id, startedAt, endedAt, duration, status, error] ←
    Json.slots? ["id", "started_at", "ended_at", "duration", "status", "error"] j | none
  return {
    id := ← id.required Json.word?
    startedAt := ← startedAt.required Json.timestamp?
    endedAt := ← endedAt.required Json.timestamp?
    duration := ← duration.required Json.duration?
    status := ← status.required (Json.choice? Status.cases)
    error := ← error.optional Json.dialect Json.text? }

end Outcome

end LoadTest
