import LoadTest.Number.BinaryFraction
import LoadTest.Number.Rounding
import LoadTest.Schedule

/-!
# Rising to the target load

The load rises in steps of equal length. Step `k` of `n` holds `k / n` of the target, rounded up
where whole requests are kept in flight. At a rate, requests arrive at equal intervals.
-/

namespace LoadTest

/-- One step: hold `level` from `start` to `finish`, counted from the beginning of the rise. -/
structure RampStep where
  start : Duration
  finish : Duration
  level : Float

/-- No rise has more steps than this. -/
def mostRampSteps : Nat := 1000

namespace Schedule

/-- The number of steps: at most `limit`, and no more than there are requests to keep in flight. -/
def stepCount (schedule : Schedule) (limit : Nat) : Nat :=
  match schedule with
  | .concurrency users => min (min limit mostRampSteps) users
  | .rate _ => min limit mostRampSteps

/-- The load that step `k` of `n` holds. -/
def stepLevel (schedule : Schedule) (k n : Nat) : Float :=
  let level := schedule.targetLevel * Float.ofNat k / Float.ofNat n
  match schedule with
  | .concurrency _ => ceiling level
  | .rate _ => level

/-- The steps of a rise. There are none if there is no time or no load to rise to. -/
def rampSteps (schedule : Schedule) (rampUp : Duration) (limit : Nat) :
    Except Fault (List RampStep) :=
  if rampUp.isZero || schedule.targetLevel ≤ 0.0 || limit = 0 then .ok []
  else
    let n := schedule.stepCount limit
    let length := rampUp.part n
    (List.range n).mapM fun i => do
      let start ← length.times i
      let finish ← if i + 1 = n then .ok rampUp else length.times (i + 1)
      return { start, finish, level := schedule.stepLevel (i + 1) n }

end Schedule

/-- No two arrivals are further apart than a day. -/
def longestInterval : Duration := .ofMillis 86400000

/-- The interval between arrivals at a rate: the inverse of the rate to the nearest nanosecond, a half
going to the even one. -/
def arrivalInterval (rate : Float) : Duration :=
  let period := 1.0 / rate
  if period < 0.0 then longestInterval
  else
    ((BinaryFraction.ofFloat? period).bind fun exact =>
      Duration.ofNanos? (exact.nearestMultiple 1000000000)).elim longestInterval (min · longestInterval)

end LoadTest
