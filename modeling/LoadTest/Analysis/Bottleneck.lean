import LoadTest.Analysis.Comparison
import LoadTest.Analysis.Measurements

/-!
# Bottlenecks

Figures above absolute limits, the most severe first.
-/

namespace LoadTest

structure BottleneckLimits where
  memoryBytes : UInt64 := 104857600
  cpuPercent : Float := 80.0
  responseMillis : Float := 1000.0
  errorRate : Float := 0.05
  deriving Inhabited

namespace BottleneckLimits

def toJson (l : BottleneckLimits) : Json :=
  .obj
    [("memory_bytes", .ofUInt64 l.memoryBytes),
     ("cpu_percent", .ofFloat l.cpuPercent),
     ("response_time_ms", .ofFloat l.responseMillis),
     ("error_rate", .ofFloat l.errorRate)]

def decode? {ν : Type} (d : Dialect ν) (v : ν) : Option BottleneckLimits := do
  let [memory, cpu, response, errorRate] ←
    d.slots? ["memory_bytes", "cpu_percent", "response_time_ms", "error_rate"] v | none
  let standard : BottleneckLimits := {}
  return {
    memoryBytes := ← memory.orElse d.uint64? standard.memoryBytes
    cpuPercent := ← cpu.orElse d.float? standard.cpuPercent
    responseMillis := ← response.orElse d.float? standard.responseMillis
    errorRate := ← errorRate.orElse d.float? standard.errorRate }

end BottleneckLimits

inductive BottleneckKind where
  | memory
  | cpu
  | responseTime
  | errorRate
  deriving DecidableEq, Repr, Inhabited

namespace BottleneckKind

def name : BottleneckKind → String
  | .memory => "memory"
  | .cpu => "cpu"
  | .responseTime => "response_time"
  | .errorRate => "error_rate"

def cases : List (String × BottleneckKind) :=
  [memory, cpu, responseTime, errorRate].map fun k => (k.name, k)

def recommendation : BottleneckKind → String
  | .memory =>
    "Reduce allocations on the hot path, bound caches and check for retained buffers"
  | .cpu =>
    "Profile CPU hot spots and move blocking or compute-heavy work off the request path"
  | .responseTime =>
    "Inspect slow dependencies, add caching or batching and review timeout budgets"
  | .errorRate =>
    "Investigate the dominant error messages and add retries or backpressure where appropriate"

end BottleneckKind

/-- A figure above its limit. -/
structure Bottleneck where
  kind : BottleneckKind
  source : String
  value : Float
  limit : Float
  severity : Severity
  recommendation : String
  deriving Inhabited

/-- The severity of a figure, by how often its limit goes into it. -/
def Severity.ofExcess (value limit : Float) : Severity :=
  if limit ≤ 0.0 then .critical
  else
    let ratio := value / limit
    if 2.0 ≤ ratio then .critical
    else if 1.5 ≤ ratio then .high
    else if 1.2 ≤ ratio then .medium
    else .low

namespace Bottleneck

/-- A figure that has a limit. -/
structure Figure where
  kind : BottleneckKind
  source : String
  value : Float
  limit : Float

/-- The figures of a set of measurements that have limits, in the order in which they are checked. -/
def figures (m : Measurements) (limits : BottleneckLimits) : List Figure :=
  let memory (source : String) (bytes : UInt64) : Figure :=
    ⟨.memory, source, Float.ofNat bytes.toNat, Float.ofNat limits.memoryBytes.toNat⟩
  m.benchmarks.map (fun b => memory b.name b.memoryBytes) ++
  m.loadTests.flatMap (fun l =>
    [memory l.name l.peakMemoryBytes,
     ⟨.responseTime, l.name, l.averageResponseMillis.value, limits.responseMillis⟩,
     ⟨.errorRate, l.name, l.errorRate.value, limits.errorRate⟩]) ++
  m.systems.flatMap (fun s =>
    [memory s.name s.memoryBytes, ⟨.cpu, s.name, s.cpuPercent.value, limits.cpuPercent⟩])

def ofFigure? (f : Figure) : Option Bottleneck :=
  if f.limit < f.value then
    some { kind := f.kind, source := f.source, value := f.value, limit := f.limit,
           severity := Severity.ofExcess f.value f.limit,
           recommendation := f.kind.recommendation }
  else none

/-- Every figure above its limit; among equally severe ones the order of checking is kept. -/
def detect (m : Measurements) (limits : BottleneckLimits) : List Bottleneck :=
  ((figures m limits).filterMap ofFigure?).mergeSort fun a b => b.severity.rank ≤ a.severity.rank

def toJson (b : Bottleneck) : Json :=
  .obj
    [("kind", .str b.kind.name),
     ("source", .str b.source),
     ("value", .ofFloat b.value),
     ("limit", .ofFloat b.limit),
     ("severity", .str b.severity.name),
     ("recommendation", .str b.recommendation)]

def ofJson? (j : Json) : Option Bottleneck := do
  let [kind, source, value, limit, severity, recommendation] ←
    Json.slots? ["kind", "source", "value", "limit", "severity", "recommendation"] j | none
  return {
    kind := ← kind.required (Json.choice? BottleneckKind.cases)
    source := ← source.required Json.text?
    value := ← value.required Json.float?
    limit := ← limit.required Json.float?
    severity := ← severity.required (Json.choice? Severity.cases)
    recommendation := ← recommendation.required Json.text? }

end Bottleneck

end LoadTest
