import LoadTest.Analysis.Baseline
import LoadTest.Analysis.Bottleneck
import LoadTest.Analysis.Trend
import LoadTest.Log.Line
import LoadTest.NameMap

/-!
# The analyzer

An analyzer stores baselines and compares measurements with them. It keeps the results in order and,
for each baseline, the series of every figure: the baseline's value and all values compared with it
since.
-/

namespace LoadTest

structure AnalyzerSettings where
  thresholds : RegressionThresholds Float := .standard
  improvementThreshold : Float := 5.0
  /-- How many recent points a trend is fitted to. -/
  trendWindow : Nat := 10
  slopeThreshold : Float := 0.1
  bottlenecks : BottleneckLimits := {}
  deriving Inhabited

namespace AnalyzerSettings

def toJson (s : AnalyzerSettings) : Json :=
  .obj
    [("thresholds", s.thresholds.toJson),
     ("improvement_threshold_percent", .ofFloat s.improvementThreshold),
     ("trend_window", .nat s.trendWindow),
     ("trend_slope_threshold", .ofFloat s.slopeThreshold),
     ("bottlenecks", s.bottlenecks.toJson)]

def fields : List String :=
  ["thresholds", "improvement_threshold_percent", "trend_window", "trend_slope_threshold",
   "bottlenecks"]

def decode? {ν : Type} (d : Dialect ν) (v : ν) : Option AnalyzerSettings := do
  let [thresholds, improvement, window, slope, bottlenecks] ← d.slots? fields v | none
  let standard : AnalyzerSettings := {}
  return {
    thresholds := ← thresholds.orElse (RegressionThresholds.decode? d) standard.thresholds
    improvementThreshold := ← improvement.orElse d.float? standard.improvementThreshold
    trendWindow := ← window.orElse d.word? standard.trendWindow
    slopeThreshold := ← slope.orElse d.float? standard.slopeThreshold
    bottlenecks := ← bottlenecks.orElse (BottleneckLimits.decode? d) standard.bottlenecks }

end AnalyzerSettings

/-- What one comparison with a baseline found. -/
structure AnalysisResult where
  baselineName : String
  baselineVersion : String
  analyzedAt : Timestamp
  regressions : List (RegressionFinding Float)
  improvements : List (ImprovementFinding Float)
  trends : List (Trend Float)
  bottlenecks : List Bottleneck
  overallScore : Float
  deriving Inhabited

namespace AnalysisResult

def hasRegressions (r : AnalysisResult) : Bool := !r.regressions.isEmpty

/-- The severity of the worst regression. -/
def worstSeverity? (r : AnalysisResult) : Option Severity :=
  (r.regressions.map RegressionFinding.severity).foldl (fun worst s =>
    match worst with
    | none => some s
    | some w => if w.rank ≤ s.rank then some s else some w) none

def toJson (r : AnalysisResult) : Json :=
  .obj
    [("baseline_name", .str r.baselineName),
     ("baseline_version", .str r.baselineVersion),
     ("analyzed_at", .ofTimestamp r.analyzedAt),
     ("regressions", .ofList RegressionFinding.toJson r.regressions),
     ("improvements", .ofList ImprovementFinding.toJson r.improvements),
     ("trends", .ofList Trend.toJson r.trends),
     ("bottlenecks", .ofList Bottleneck.toJson r.bottlenecks),
     ("overall_score", .ofFloat r.overallScore)]

def fields : List String :=
  ["baseline_name", "baseline_version", "analyzed_at", "regressions", "improvements", "trends",
   "bottlenecks", "overall_score"]

def ofJson? (j : Json) : Option AnalysisResult := do
  let [name, version, analyzedAt, regressions, improvements, trends, bottlenecks, score] ←
    Json.slots? fields j | none
  return {
    baselineName := ← name.required Json.text?
    baselineVersion := ← version.required Json.text?
    analyzedAt := ← analyzedAt.required Json.timestamp?
    regressions := ← regressions.required (Json.list? RegressionFinding.ofJson?)
    improvements := ← improvements.required (Json.list? ImprovementFinding.ofJson?)
    trends := ← trends.required (Json.list? Trend.ofJson?)
    bottlenecks := ← bottlenecks.required (Json.list? Bottleneck.ofJson?)
    overallScore := ← score.required Json.float? }

end AnalysisResult

/-! ### Pairing figures -/

def MetricSample.ofFigures (category : MetricCategory) (item metric : String) (kind : MetricKind)
    (baseline current : Figure) : MetricSample Float :=
  { category, item, metric, kind, baseline := baseline.value, current := current.value,
    minus := current.minus }

namespace BenchmarkFigures

def samples (before now : BenchmarkFigures) : List (MetricSample Float) :=
  let sample := MetricSample.ofFigures .benchmark now.name
  [sample "average_time_ms" .responseTime before.averageTimeMillis now.averageTimeMillis,
   sample "operations_per_second" .throughput before.operationsPerSecond now.operationsPerSecond,
   sample "memory_bytes" .memory (.ofBytes before.memoryBytes) (.ofBytes now.memoryBytes)]

end BenchmarkFigures

namespace LoadFigures

def samples (before now : LoadFigures) : List (MetricSample Float) :=
  let sample := MetricSample.ofFigures .loadTest now.name
  [sample "throughput_rps" .throughput before.throughput now.throughput,
   sample "average_response_time_ms" .responseTime before.averageResponseMillis
     now.averageResponseMillis,
   sample "p95_response_time_ms" .responseTime before.p95ResponseMillis now.p95ResponseMillis,
   sample "p99_response_time_ms" .responseTime before.p99ResponseMillis now.p99ResponseMillis,
   sample "error_rate" .errorRate before.errorRate now.errorRate,
   sample "peak_memory_bytes" .memory (.ofBytes before.peakMemoryBytes)
     (.ofBytes now.peakMemoryBytes)]

end LoadFigures

namespace SystemFigures

def samples (before now : SystemFigures) : List (MetricSample Float) :=
  let sample := MetricSample.ofFigures .system now.name
  [sample "cpu_percent" .cpu before.cpuPercent now.cpuPercent,
   sample "memory_bytes" .memory (.ofBytes before.memoryBytes) (.ofBytes now.memoryBytes),
   sample "load_average" .cpu before.loadAverage now.loadAverage]

end SystemFigures

namespace Measurements

/-- The figures of every current item whose name occurs in the same part of the baseline, paired
with the first item of that name there. -/
def samples (baseline current : Measurements) : List (MetricSample Float) :=
  current.benchmarks.flatMap (fun now =>
    match baseline.benchmarks.find? fun b => b.name = now.name with
    | some before => before.samples now
    | none => []) ++
  current.loadTests.flatMap (fun now =>
    match baseline.loadTests.find? fun l => l.name = now.name with
    | some before => before.samples now
    | none => []) ++
  current.systems.flatMap (fun now =>
    match baseline.systems.find? fun s => s.name = now.name with
    | some before => before.samples now
    | none => [])

end Measurements

/-! ### Series and trends -/

namespace MetricSample

/-- The name of the series that a figure belongs to. -/
def seriesName {α : Type} (s : MetricSample α) : String :=
  s.category.name ++ "/" ++ s.item ++ "/" ++ s.metric

end MetricSample

/-- The values of each figure, by the name of its series. -/
abbrev SeriesMap := NameMap (List Float)

namespace SeriesMap

/-- Appends a current value; a new series starts with the value of the baseline. -/
def extend (m : SeriesMap) (s : MetricSample Float) : SeriesMap :=
  NameMap.alter m s.seriesName fun old => old.getD [s.baseline] ++ [s.current]

def trend? (m : SeriesMap) (settings : AnalyzerSettings) (s : MetricSample Float) :
    Option (Trend Float) :=
  Trend.ofSeries? s.seriesName ((NameMap.get? m s.seriesName).getD []) settings.trendWindow
    settings.slopeThreshold (!s.kind.higherIsBetter)

/-- Appends the current values in order. After each one the trend of its series is fitted, if there
are points enough. -/
def extendAll (settings : AnalyzerSettings) :
    SeriesMap → List (MetricSample Float) → SeriesMap × List (Trend Float)
  | m, [] => (m, [])
  | m, s :: rest =>
    let m := extend m s
    let (final, trends) := extendAll settings m rest
    (final, (trend? m settings s).toList ++ trends)

end SeriesMap

/-! ### The analyzer -/

structure Analyzer where
  settings : AnalyzerSettings := {}
  baselines : BaselineStore := .empty
  /-- Results in the order of the analyses. -/
  history : List AnalysisResult := []
  /-- The series of each baseline. -/
  series : NameMap SeriesMap := .empty
  deriving Inhabited

namespace Analyzer

/-- Stores a baseline in place of any other of that name; its series start anew. -/
def createBaseline (a : Analyzer) (now : Timestamp) (name version : String)
    (measurements : Measurements) : Baseline × Analyzer :=
  let (baseline, baselines) := a.baselines.upsert { name, version, createdAt := now, measurements }
  (baseline, { a with baselines, series := a.series.erase name })

def baseline? (a : Analyzer) (name : String) : Option Baseline := a.baselines.get? name

/-- Drops a baseline together with its series. -/
def removeBaseline (a : Analyzer) (name : String) : Option Baseline × Analyzer :=
  let (removed, baselines) := a.baselines.remove name
  (removed, { a with baselines, series := a.series.erase name })

/-- The regressions among some figures, the most severe first. -/
def regressions (settings : AnalyzerSettings) (samples : List (MetricSample Float)) :
    List (RegressionFinding Float) :=
  (samples.filterMap fun s =>
    match s.compare settings.thresholds settings.improvementThreshold with
    | .regression finding => some finding
    | _ => none).mergeSort fun a b => b.severity.rank ≤ a.severity.rank

/-- The improvements among some figures, the most significant first. -/
def improvements (settings : AnalyzerSettings) (samples : List (MetricSample Float)) :
    List (ImprovementFinding Float) :=
  (samples.filterMap fun s =>
    match s.compare settings.thresholds settings.improvementThreshold with
    | .improvement finding => some finding
    | _ => none).mergeSort fun a b => b.significance.rank ≤ a.significance.rank

/-- Compares measurements with the baseline of a name and files the result. -/
def analyze (a : Analyzer) (now : Timestamp) (name : String) (current : Measurements) :
    Except Failure (AnalysisResult × Analyzer) :=
  match a.baselines.get? name with
  | none => .error (.baselineNotFound name)
  | some baseline =>
    let samples := baseline.measurements.samples current
    let regressions := regressions a.settings samples
    let improvements := improvements a.settings samples
    let (series, trends) :=
      SeriesMap.extendAll a.settings ((a.series.get? name).getD NameMap.empty) samples
    let result : AnalysisResult :=
      { baselineName := name
        baselineVersion := baseline.version
        analyzedAt := now
        regressions
        improvements
        trends
        bottlenecks := Bottleneck.detect current a.settings.bottlenecks
        overallScore := overallScore (regressions.map RegressionFinding.severity)
          (improvements.map ImprovementFinding.significance) }
    .ok (result, { a with history := a.history ++ [result], series := a.series.insert name series })

/-! An analyzer may also be kept and acted on. A failure then does not undo what an action did before
it. -/

/-- The baseline of a name. -/
def storedM (name : String) : ExceptT Failure (StateM Analyzer) Baseline := do
  match (← get).baselines.get? name with
  | some baseline => return baseline
  | none => throw (.baselineNotFound name)

/-- Appends figures to the series under a name, which begin here if there are none, and fits their
trends. -/
def fitTrendsM (name : String) (samples : List (MetricSample Float)) :
    StateM Analyzer (List (Trend Float)) :=
  modifyGet fun a =>
    let (series, trends) :=
      SeriesMap.extendAll a.settings ((a.series.get? name).getD NameMap.empty) samples
    (trends, { a with series := a.series.insert name series })

/-- Compares measurements with a baseline and files the result. -/
def compareM (now : Timestamp) (name : String) (baseline : Baseline) (current : Measurements) :
    StateM Analyzer AnalysisResult := do
  let settings := (← get).settings
  let samples := baseline.measurements.samples current
  let regressions := regressions settings samples
  let improvements := improvements settings samples
  let trends ← fitTrendsM name samples
  let result : AnalysisResult :=
    { baselineName := name
      baselineVersion := baseline.version
      analyzedAt := now
      regressions
      improvements
      trends
      bottlenecks := Bottleneck.detect current settings.bottlenecks
      overallScore := overallScore (regressions.map RegressionFinding.severity)
        (improvements.map ImprovementFinding.significance) }
  modify fun a => { a with history := a.history ++ [result] }
  return result

def analyzeM (now : Timestamp) (name : String) (current : Measurements) :
    ExceptT Failure (StateM Analyzer) AnalysisResult := do
  let baseline ← storedM name
  compareM now name baseline current

/-- Fits a trend to any series; high values count as good. -/
def trend? (a : Analyzer) (metric : String) (series : List Float) : Option (Trend Float) :=
  Trend.ofSeries? metric series a.settings.trendWindow a.settings.slopeThreshold false

/-- Forgets all results and all series. -/
def clearHistory (a : Analyzer) : Analyzer := { a with history := [], series := .empty }

/-- Drops all baselines and their series. -/
def clearBaselines (a : Analyzer) : Analyzer :=
  { a with baselines := a.baselines.clear, series := .empty }

/-! ### What an analyzer logs -/

def logSource : String := "stampede::analysis"

def line (level : LogLevel) (message : String) : LogLine := { level, source := logSource, message }

/-- The lines for a baseline about to be stored. -/
def createLines (a : Analyzer) (name : String) : List LogLine :=
  line .info "Baseline stored" ::
    if a.baselines.contains name then [line .debug "Replacing existing baseline"] else []

/-- The lines for a baseline about to be removed. -/
def removeLines (a : Analyzer) (name : String) : List LogLine :=
  if a.baselines.contains name then [line .info "Baseline removed"] else []

/-- One line for each current item that the baseline does not have. -/
def skippedLines (baseline current : Measurements) : List LogLine :=
  current.benchmarks.filterMap (fun now =>
    if baseline.benchmarks.any fun b => b.name = now.name then none
    else some (line .debug "No baseline benchmark, skipping")) ++
  current.loadTests.filterMap (fun now =>
    if baseline.loadTests.any fun l => l.name = now.name then none
    else some (line .debug "No baseline load test, skipping")) ++
  current.systems.filterMap (fun now =>
    if baseline.systems.any fun s => s.name = now.name then none
    else some (line .debug "No baseline system metrics, skipping"))

/-- The lines for measurements about to be analysed. -/
def analyzeLines (a : Analyzer) (name : String) (current : Measurements) : List LogLine :=
  match a.baselines.get? name with
  | none => []
  | some baseline =>
    let found := regressions a.settings (baseline.measurements.samples current)
    skippedLines baseline.measurements current ++
      found.map (fun _ => line .warn "Performance regression") ++
      [line .info "Analysis completed"]

end Analyzer

end LoadTest
