import LoadTest.Request
import LoadTest.Statistics

/-!
# Latencies

The distribution of the latencies of successful requests, in milliseconds, and their drift: the
correlation of a request's start with its latency.
-/

namespace LoadTest

structure LatencyStats (α : Type) where
  least : α
  greatest : α
  mean : α
  deviation : α
  p50 : α
  p90 : α
  p95 : α
  p99 : α
  outliers : Nat
  drift : α
  deriving Inhabited

/-- A latency further than this many standard deviations from the mean is an outlier. -/
def outlierThreshold {α : Type} [Scalar α] : α := Scalar.ofCount 5 / Scalar.ofCount 2

namespace LatencyStats

variable {α : Type} [Scalar α]

def empty : LatencyStats α where
  least := Scalar.zero
  greatest := Scalar.zero
  mean := Scalar.zero
  deviation := Scalar.zero
  p50 := Scalar.zero
  p90 := Scalar.zero
  p95 := Scalar.zero
  p99 := Scalar.zero
  outliers := 0
  drift := Scalar.zero

/-- The distribution of some latencies. It depends on the latencies only, not on their order; the
drift is left at zero. -/
def ofLatencies (latencies : List α) : LatencyStats α :=
  if latencies.isEmpty then empty
  else
    let sorted := latencies.mergeSort Scalar.sortsBefore
    let at_ (p : Nat) : α := percentile sorted (Scalar.ofCount p)
    { least := sorted.headD Scalar.zero
      greatest := sorted.getLastD Scalar.zero
      mean := LoadTest.mean sorted
      deviation := standardDeviation sorted
      p50 := at_ 50
      p90 := at_ 90
      p95 := at_ 95
      p99 := at_ 99
      outliers := (LoadTest.outliers sorted outlierThreshold).length
      drift := Scalar.zero }

def toJson (s : LatencyStats Float) : Json :=
  .obj
    [("min_ms", .ofFloat s.least),
     ("max_ms", .ofFloat s.greatest),
     ("mean_ms", .ofFloat s.mean),
     ("std_dev_ms", .ofFloat s.deviation),
     ("p50_ms", .ofFloat s.p50),
     ("p90_ms", .ofFloat s.p90),
     ("p95_ms", .ofFloat s.p95),
     ("p99_ms", .ofFloat s.p99),
     ("outliers", .nat s.outliers),
     ("drift", .ofFloat s.drift)]

def fields : List String :=
  ["min_ms", "max_ms", "mean_ms", "std_dev_ms", "p50_ms", "p90_ms", "p95_ms", "p99_ms", "outliers",
   "drift"]

def ofJson? (j : Json) : Option (LatencyStats Float) := do
  let [least, greatest, mean, deviation, p50, p90, p95, p99, outliers, drift] ←
    Json.slots? fields j | none
  return {
    least := ← least.required Json.float?
    greatest := ← greatest.required Json.float?
    mean := ← mean.required Json.float?
    deviation := ← deviation.required Json.float?
    p50 := ← p50.required Json.float?
    p90 := ← p90.required Json.float?
    p95 := ← p95.required Json.float?
    p99 := ← p99.required Json.float?
    outliers := ← outliers.orElse Json.word? 0
    drift := ← drift.orElse Json.float? 0.0 }

end LatencyStats

namespace Outlier

def toJson (o : Outlier Float) : Json :=
  .obj [("index", .nat o.index), ("value", .ofFloat o.value), ("z_score", .ofFloat o.zScore)]

def ofJson? (j : Json) : Option (Outlier Float) := do
  let [index, value, zScore] ← Json.slots? ["index", "value", "z_score"] j | none
  return {
    index := ← index.required Json.word?
    value := ← value.required Json.float?
    zScore := ← zScore.required Json.float? }

end Outlier

/-- Whole microseconds from `origin` to `t`, at most `2 ^ 63 - 1`. -/
def microsSince (t origin : Timestamp) : Int :=
  min ((t.nanosSince origin).tdiv 1000) 9223372036854775807

/-- The correlation of start and latency over the successful requests. -/
def latencyDrift (outcomes : List Outcome) : Float :=
  let successes := outcomes.filter Outcome.isSuccess
  match Timestamp.earliest? (successes.map Outcome.startedAt) with
  | none => 0.0
  | some origin =>
    let offsets := successes.map fun o => Float.ofInt (microsSince o.startedAt origin) / 1000.0
    correlation offsets (successes.map Outcome.millis)

end LoadTest
