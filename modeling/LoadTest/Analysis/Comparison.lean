import LoadTest.Json.Record
import LoadTest.Scalar

/-!
# Comparison with a baseline

A figure is compared with its baseline by its relative change. A change in the unfavourable
direction beyond the threshold of the figure's kind is a regression, and one in the favourable
direction beyond a common threshold is an improvement.
-/

namespace LoadTest

open Scalar

/-- What a figure measures. It decides the threshold and which direction is favourable. -/
inductive MetricKind where
  | throughput
  | responseTime
  | memory
  | errorRate
  | cpu
  deriving DecidableEq, Repr, Inhabited

namespace MetricKind

def name : MetricKind → String
  | .throughput => "throughput"
  | .responseTime => "response_time"
  | .memory => "memory"
  | .errorRate => "error_rate"
  | .cpu => "cpu"

def cases : List (String × MetricKind) :=
  [throughput, responseTime, memory, errorRate, cpu].map fun k => (k.name, k)

/-- Throughput should be high, and everything else low. -/
def higherIsBetter : MetricKind → Bool
  | .throughput => true
  | _ => false

end MetricKind

/-- The part of a set of measurements that a figure comes from. -/
inductive MetricCategory where
  | benchmark
  | loadTest
  | system
  deriving DecidableEq, Repr, Inhabited

namespace MetricCategory

def name : MetricCategory → String
  | .benchmark => "benchmark"
  | .loadTest => "load_test"
  | .system => "system"

def cases : List (String × MetricCategory) :=
  [benchmark, loadTest, system].map fun c => (c.name, c)

end MetricCategory

inductive Severity where
  | low
  | medium
  | high
  | critical
  deriving DecidableEq, Repr, Inhabited

namespace Severity

def name : Severity → String
  | .low => "low"
  | .medium => "medium"
  | .high => "high"
  | .critical => "critical"

def cases : List (String × Severity) := [low, medium, high, critical].map fun s => (s.name, s)

def rank : Severity → Nat
  | .low => 0
  | .medium => 1
  | .high => 2
  | .critical => 3

/-- What a regression takes off the score. -/
def penalty {α : Type} [Scalar α] : Severity → α
  | .critical => ofCount 20
  | .high => ofCount 15
  | .medium => ofCount 10
  | .low => ofCount 5

end Severity

inductive Significance where
  | minor
  | moderate
  | major
  | exceptional
  deriving DecidableEq, Repr, Inhabited

namespace Significance

def name : Significance → String
  | .minor => "minor"
  | .moderate => "moderate"
  | .major => "major"
  | .exceptional => "exceptional"

def cases : List (String × Significance) :=
  [minor, moderate, major, exceptional].map fun s => (s.name, s)

def rank : Significance → Nat
  | .minor => 0
  | .moderate => 1
  | .major => 2
  | .exceptional => 3

/-- What an improvement adds to the score. -/
def bonus {α : Type} [Scalar α] : Significance → α
  | .exceptional => ofCount 10
  | .major => ofCount 7
  | .moderate => ofCount 5
  | .minor => ofCount 2

end Significance

/-- The unfavourable change that is allowed for each kind, in percent. -/
structure RegressionThresholds (α : Type) where
  throughput : α
  responseTime : α
  memory : α
  errorRate : α
  cpu : α
  deriving Inhabited

namespace RegressionThresholds

def forKind {α : Type} (t : RegressionThresholds α) : MetricKind → α
  | .throughput => t.throughput
  | .responseTime => t.responseTime
  | .memory => t.memory
  | .errorRate => t.errorRate
  | .cpu => t.cpu

def standard : RegressionThresholds Float where
  throughput := 10.0
  responseTime := 10.0
  memory := 20.0
  errorRate := 25.0
  cpu := 20.0

def toJson (t : RegressionThresholds Float) : Json :=
  .obj
    [("throughput_percent", .ofFloat t.throughput),
     ("response_time_percent", .ofFloat t.responseTime),
     ("memory_percent", .ofFloat t.memory),
     ("error_rate_percent", .ofFloat t.errorRate),
     ("cpu_percent", .ofFloat t.cpu)]

def fields : List String :=
  ["throughput_percent", "response_time_percent", "memory_percent", "error_rate_percent",
   "cpu_percent"]

def decode? {ν : Type} (d : Dialect ν) (v : ν) : Option (RegressionThresholds Float) := do
  let [throughput, responseTime, memory, errorRate, cpu] ← d.slots? fields v | none
  return {
    throughput := ← throughput.orElse d.float? standard.throughput
    responseTime := ← responseTime.orElse d.float? standard.responseTime
    memory := ← memory.orElse d.float? standard.memory
    errorRate := ← errorRate.orElse d.float? standard.errorRate
    cpu := ← cpu.orElse d.float? standard.cpu }

end RegressionThresholds

/-- A figure of an item now and in the baseline. -/
structure MetricSample (α : Type) where
  category : MetricCategory
  /-- The name of the benchmark, load test or host. -/
  item : String
  metric : String
  kind : MetricKind
  baseline : α
  current : α
  /-- Whether the current figure has a minus sign; only asked of one that is no number. -/
  minus : Bool := false

/-- A figure that moved the wrong way by more than its threshold. -/
structure RegressionFinding (α : Type) where
  category : MetricCategory
  item : String
  metric : String
  kind : MetricKind
  baselineValue : α
  currentValue : α
  changePercent : α
  degradationPercent : α
  thresholdPercent : α
  severity : Severity
  deriving Inhabited

/-- A figure that moved the right way by more than the threshold for improvements. -/
structure ImprovementFinding (α : Type) where
  category : MetricCategory
  item : String
  metric : String
  kind : MetricKind
  baselineValue : α
  currentValue : α
  changePercent : α
  significance : Significance
  deriving Inhabited

inductive Comparison (α : Type) where
  | regression (finding : RegressionFinding α)
  | improvement (finding : ImprovementFinding α)
  | unchanged

section Classification

variable {α : Type} [Scalar α]

/-- Whether a figure is negative; `minus` tells the sign of one that is no number. -/
def isNegative (x : α) (minus : Bool) : Bool := x < zero || !same x x && minus

/-- The relative change in percent. From a baseline of zero any change counts as one hundred, with
the sign of the current figure. -/
def percentChange (baseline current : α) (minus : Bool) : α :=
  if same baseline zero then
    if same current zero then zero
    else if isNegative current minus then -ofCount 100 else ofCount 100
  else (current - baseline) / abs baseline * ofCount 100

/-- The severity of a regression, by how many thresholds it amounts to. -/
def Severity.ofDegradation (degradation threshold : α) : Severity :=
  if threshold ≤ zero then .critical
  else
    let ratio := degradation / threshold
    if ofCount 3 ≤ ratio then .critical
    else if ofCount 2 ≤ ratio then .high
    else if ofCount 3 / ofCount 2 ≤ ratio then .medium
    else .low

/-- The significance of an improvement, by its size in percent. -/
def Significance.ofImprovement (improvement : α) : Significance :=
  if ofCount 50 ≤ improvement then .exceptional
  else if ofCount 25 ≤ improvement then .major
  else if ofCount 10 ≤ improvement then .moderate
  else .minor

/-- How far a figure moved in its unfavourable direction, given its change. -/
def MetricKind.degradation (kind : MetricKind) (change : α) : α :=
  if kind.higherIsBetter then -change else change

/-- Judges a figure against its baseline. -/
def MetricSample.compare (s : MetricSample α) (thresholds : RegressionThresholds α)
    (improvementThreshold : α) : Comparison α :=
  let changePercent := percentChange s.baseline s.current s.minus
  let degradationPercent := s.kind.degradation changePercent
  let thresholdPercent := thresholds.forKind s.kind
  if thresholdPercent < degradationPercent then
    .regression
      { category := s.category, item := s.item, metric := s.metric, kind := s.kind,
        baselineValue := s.baseline, currentValue := s.current,
        changePercent, degradationPercent, thresholdPercent,
        severity := Severity.ofDegradation degradationPercent thresholdPercent }
  else if improvementThreshold < -degradationPercent then
    .improvement
      { category := s.category, item := s.item, metric := s.metric, kind := s.kind,
        baselineValue := s.baseline, currentValue := s.current, changePercent,
        significance := Significance.ofImprovement (-degradationPercent) }
  else .unchanged

/-- One hundred, less a penalty for each regression and with a bonus for each improvement, but never
below zero or above one hundred. -/
def overallScore (regressions : List Severity) (improvements : List Significance) : α :=
  let penalty : α := sum (regressions.map Severity.penalty)
  let bonus : α := sum (improvements.map Significance.bonus)
  clamp (ofCount 100 - penalty + bonus) zero (ofCount 100)

end Classification

namespace RegressionFinding

def toJson (f : RegressionFinding Float) : Json :=
  .obj
    [("category", .str f.category.name),
     ("item", .str f.item),
     ("metric", .str f.metric),
     ("kind", .str f.kind.name),
     ("baseline_value", .ofFloat f.baselineValue),
     ("current_value", .ofFloat f.currentValue),
     ("change_percent", .ofFloat f.changePercent),
     ("degradation_percent", .ofFloat f.degradationPercent),
     ("threshold_percent", .ofFloat f.thresholdPercent),
     ("severity", .str f.severity.name)]

def fields : List String :=
  ["category", "item", "metric", "kind", "baseline_value", "current_value", "change_percent",
   "degradation_percent", "threshold_percent", "severity"]

def ofJson? (j : Json) : Option (RegressionFinding Float) := do
  let [category, item, metric, kind, baseline, current, change, degradation, threshold, severity] ←
    Json.slots? fields j | none
  return {
    category := ← category.required (Json.choice? MetricCategory.cases)
    item := ← item.required Json.text?
    metric := ← metric.required Json.text?
    kind := ← kind.required (Json.choice? MetricKind.cases)
    baselineValue := ← baseline.required Json.float?
    currentValue := ← current.required Json.float?
    changePercent := ← change.required Json.float?
    degradationPercent := ← degradation.required Json.float?
    thresholdPercent := ← threshold.required Json.float?
    severity := ← severity.required (Json.choice? Severity.cases) }

end RegressionFinding

namespace ImprovementFinding

def toJson (f : ImprovementFinding Float) : Json :=
  .obj
    [("category", .str f.category.name),
     ("item", .str f.item),
     ("metric", .str f.metric),
     ("kind", .str f.kind.name),
     ("baseline_value", .ofFloat f.baselineValue),
     ("current_value", .ofFloat f.currentValue),
     ("change_percent", .ofFloat f.changePercent),
     ("significance", .str f.significance.name)]

def fields : List String :=
  ["category", "item", "metric", "kind", "baseline_value", "current_value", "change_percent",
   "significance"]

def ofJson? (j : Json) : Option (ImprovementFinding Float) := do
  let [category, item, metric, kind, baseline, current, change, significance] ←
    Json.slots? fields j | none
  return {
    category := ← category.required (Json.choice? MetricCategory.cases)
    item := ← item.required Json.text?
    metric := ← metric.required Json.text?
    kind := ← kind.required (Json.choice? MetricKind.cases)
    baselineValue := ← baseline.required Json.float?
    currentValue := ← current.required Json.float?
    changePercent := ← change.required Json.float?
    significance := ← significance.required (Json.choice? Significance.cases) }

end ImprovementFinding

end LoadTest
