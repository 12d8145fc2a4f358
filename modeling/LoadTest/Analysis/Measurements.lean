import LoadTest.Number.Rounding
import LoadTest.Report

/-!
# Measurements

The figures of benchmarks, load tests and hosts that one build or run produced.
-/

namespace LoadTest

/-- A measured figure: a float, or what is no number and has a minus sign. `Float` has one value that
is no number, and that has none. -/
inductive Figure where
  | float (x : Float)
  | minusNaN
  deriving Inhabited

namespace Figure

def ofBits (bits : UInt64) : Figure :=
  let x := Float.ofBits bits
  if x.isNaN && 0x8000000000000000 ≤ bits then .minusNaN else .float x

def ofBytes (bytes : UInt64) : Figure := .float (Float.ofNat bytes.toNat)

def value : Figure → Float
  | .float x => x
  | .minusNaN => 0.0 / 0.0

/-- Whether the figure has a minus sign that its value does not tell. -/
def minus : Figure → Bool
  | .float _ => false
  | .minusNaN => true

def toJson (f : Figure) : Json := .ofFloat f.value

def ofJson? (j : Json) : Option Figure := (Json.float? j).map .float

end Figure

structure BenchmarkFigures where
  name : String
  averageTimeMillis : Figure
  operationsPerSecond : Figure
  memoryBytes : UInt64
  deriving Inhabited

/-- The headline figures of a load test. -/
structure LoadFigures where
  name : String
  throughput : Figure
  averageResponseMillis : Figure
  p95ResponseMillis : Figure
  p99ResponseMillis : Figure
  errorRate : Figure
  peakMemoryBytes : UInt64
  deriving Inhabited

/-- The resources that a host used. -/
structure SystemFigures where
  name : String
  cpuPercent : Figure
  memoryBytes : UInt64
  loadAverage : Figure
  deriving Inhabited

structure Measurements where
  benchmarks : List BenchmarkFigures := []
  loadTests : List LoadFigures := []
  systems : List SystemFigures := []
  deriving Inhabited

namespace BenchmarkFigures

def toJson (b : BenchmarkFigures) : Json :=
  .obj
    [("name", .str b.name),
     ("average_time_ms", b.averageTimeMillis.toJson),
     ("operations_per_second", b.operationsPerSecond.toJson),
     ("memory_bytes", .ofUInt64 b.memoryBytes)]

def fields : List String := ["name", "average_time_ms", "operations_per_second", "memory_bytes"]

def ofJson? (j : Json) : Option BenchmarkFigures := do
  let [name, average, operations, memory] ← Json.slots? fields j | none
  return {
    name := ← name.required Json.text?
    averageTimeMillis := ← average.required Figure.ofJson?
    operationsPerSecond := ← operations.required Figure.ofJson?
    memoryBytes := ← memory.required Json.uint64? }

end BenchmarkFigures

namespace LoadFigures

def ofReport (r : Report) : LoadFigures where
  name := r.name
  throughput := .float r.throughput.requestsPerSecond
  averageResponseMillis := .float r.latency.mean
  p95ResponseMillis := .float r.latency.p95
  p99ResponseMillis := .float r.latency.p99
  errorRate := .float r.errorRate
  peakMemoryBytes := r.memory.peakBytes

def toJson (l : LoadFigures) : Json :=
  .obj
    [("name", .str l.name),
     ("throughput_rps", l.throughput.toJson),
     ("average_response_time_ms", l.averageResponseMillis.toJson),
     ("p95_response_time_ms", l.p95ResponseMillis.toJson),
     ("p99_response_time_ms", l.p99ResponseMillis.toJson),
     ("error_rate", l.errorRate.toJson),
     ("peak_memory_bytes", .ofUInt64 l.peakMemoryBytes)]

def fields : List String :=
  ["name", "throughput_rps", "average_response_time_ms", "p95_response_time_ms",
   "p99_response_time_ms", "error_rate", "peak_memory_bytes"]

def ofJson? (j : Json) : Option LoadFigures := do
  let [name, throughput, average, p95, p99, errorRate, memory] ← Json.slots? fields j | none
  return {
    name := ← name.required Json.text?
    throughput := ← throughput.required Figure.ofJson?
    averageResponseMillis := ← average.required Figure.ofJson?
    p95ResponseMillis := ← p95.required Figure.ofJson?
    p99ResponseMillis := ← p99.required Figure.ofJson?
    errorRate := ← errorRate.required Figure.ofJson?
    peakMemoryBytes := ← memory.required Json.uint64? }

end LoadFigures

namespace SystemFigures

/-- The means of a series: processor, memory to the nearest byte, and load over one minute. -/
def ofSamples (name : String) (samples : List ResourceSample) : SystemFigures where
  name := name
  cpuPercent := .float (mean (samples.map ResourceSample.cpuPercent))
  memoryBytes := UInt64.ofNat
    (nearestCount (mean (samples.map fun s => Float.ofNat s.memoryBytes.toNat)))
  loadAverage := .float (mean (samples.map fun s => s.loadAverage.one))

def toJson (s : SystemFigures) : Json :=
  .obj
    [("name", .str s.name),
     ("cpu_percent", s.cpuPercent.toJson),
     ("memory_bytes", .ofUInt64 s.memoryBytes),
     ("load_average", s.loadAverage.toJson)]

def ofJson? (j : Json) : Option SystemFigures := do
  let [name, cpu, memory, load] ←
    Json.slots? ["name", "cpu_percent", "memory_bytes", "load_average"] j | none
  return {
    name := ← name.required Json.text?
    cpuPercent := ← cpu.required Figure.ofJson?
    memoryBytes := ← memory.required Json.uint64?
    loadAverage := ← load.required Figure.ofJson? }

end SystemFigures

namespace Measurements

def isEmpty (m : Measurements) : Bool :=
  m.benchmarks.isEmpty && m.loadTests.isEmpty && m.systems.isEmpty

def toJson (m : Measurements) : Json :=
  .obj
    [("benchmarks", .ofList BenchmarkFigures.toJson m.benchmarks),
     ("load_tests", .ofList LoadFigures.toJson m.loadTests),
     ("system_metrics", .ofList SystemFigures.toJson m.systems)]

def ofJson? (j : Json) : Option Measurements := do
  let [benchmarks, loadTests, systems] ←
    Json.slots? ["benchmarks", "load_tests", "system_metrics"] j | none
  return {
    benchmarks := ← benchmarks.orElse (Json.list? BenchmarkFigures.ofJson?) []
    loadTests := ← loadTests.orElse (Json.list? LoadFigures.ofJson?) []
    systems := ← systems.orElse (Json.list? SystemFigures.ofJson?) [] }

end Measurements

end LoadTest
