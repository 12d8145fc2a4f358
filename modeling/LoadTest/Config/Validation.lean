import LoadTest.Config.Basic
import LoadTest.Config.Failure
import LoadTest.Ramp

/-!
# Validation of a configuration

The checks run in a fixed order, and the first one that fails is reported.
-/

namespace LoadTest

/-- What is wrong with a configuration. -/
inductive ConfigFlaw where
  | rampSteps
  | warmupConcurrency
  | eventBuffer
  | generatorIntervals
  | samplerInterval
  | leakWindow
  | maxWorkers
  | threadName
  /-- The threshold with this name. -/
  | threshold (name : String)
  | improvementThreshold
  | trendWindow
  | slopeThreshold
  | bottleneckLimits
  deriving DecidableEq, Repr

namespace ConfigFlaw

def message : ConfigFlaw → String
  | .rampSteps => "max_ramp_steps must be between 1 and " ++ toString mostRampSteps
  | .warmupConcurrency => "warmup_concurrency must be greater than 0"
  | .eventBuffer => "event_buffer must be greater than 0"
  | .generatorIntervals => "Generator intervals must be greater than 0"
  | .samplerInterval => "Sampler interval must be greater than 0"
  | .leakWindow => "leak_window must be greater than 0"
  | .maxWorkers => "max_workers must be greater than 0"
  | .threadName => "thread_name_prefix cannot be empty"
  | .threshold name => "Regression threshold " ++ name ++ " must be a positive number"
  | .improvementThreshold => "improvement_threshold_percent cannot be negative"
  | .trendWindow => "trend_window must be at least 3"
  | .slopeThreshold => "trend_slope_threshold cannot be negative"
  | .bottleneckLimits => "Bottleneck limits must be greater than 0"

def toFailure (flaw : ConfigFlaw) : ConfigFailure := .validation flaw.message

end ConfigFlaw

/-- The flaw that a failed check stands for. -/
def flawIf (failed : Bool) (flaw : ConfigFlaw) : List ConfigFlaw := if failed then [flaw] else []

namespace GeneratorSettings

def flaws (s : GeneratorSettings) : List ConfigFlaw :=
  flawIf (s.maxRampSteps = 0 || mostRampSteps < s.maxRampSteps) .rampSteps ++
  flawIf (s.warmupConcurrency = 0) .warmupConcurrency ++
  flawIf (s.eventBuffer = 0) .eventBuffer ++
  flawIf (s.progressInterval.isZero || s.throughputWindow.isZero) .generatorIntervals

end GeneratorSettings

namespace SamplerSettings

def flaws (s : SamplerSettings) : List ConfigFlaw :=
  flawIf s.interval.isZero .samplerInterval ++ flawIf (s.leakWindow = 0) .leakWindow

end SamplerSettings

namespace CoordinatorSettings

def flaws (s : CoordinatorSettings) : List ConfigFlaw :=
  flawIf (s.maxWorkers = some 0) .maxWorkers ++ flawIf s.threadName.isEmpty .threadName

end CoordinatorSettings

namespace RegressionThresholds

/-- The thresholds that are not positive numbers. -/
def flaws (t : RegressionThresholds Float) : List ConfigFlaw :=
  (fields.zip [t.throughput, t.responseTime, t.memory, t.errorRate, t.cpu]).filterMap
    fun (name, value) => if !value.isFinite || value ≤ 0.0 then some (.threshold name) else none

end RegressionThresholds

namespace BottleneckLimits

/-- Whether some limit is zero or negative. -/
def isFlawed (l : BottleneckLimits) : Bool :=
  l.memoryBytes = 0 || l.cpuPercent ≤ 0.0 || l.responseMillis ≤ 0.0 || l.errorRate ≤ 0.0

end BottleneckLimits

namespace AnalyzerSettings

def flaws (s : AnalyzerSettings) : List ConfigFlaw :=
  s.thresholds.flaws ++
  flawIf (!s.improvementThreshold.isFinite || s.improvementThreshold < 0.0) .improvementThreshold ++
  flawIf (s.trendWindow < fewestTrendPoints) .trendWindow ++
  flawIf (s.slopeThreshold < 0.0) .slopeThreshold ++
  flawIf s.bottlenecks.isFlawed .bottleneckLimits

end AnalyzerSettings

namespace Config

/-- Everything that is wrong with a configuration, in the order of the checks. -/
def flaws (c : Config) : List ConfigFlaw :=
  c.generator.flaws ++ c.sampler.flaws ++ c.coordinator.flaws ++ c.analyzer.flaws

def validate (c : Config) : Except ConfigFlaw Unit :=
  match c.flaws with
  | [] => .ok ()
  | flaw :: _ => .error flaw

end Config

end LoadTest
