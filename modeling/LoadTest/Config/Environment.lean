import LoadTest.Config.Basic
import LoadTest.Config.Failure
import LoadTest.Number.Literal
import LoadTest.Text.Blank

/-!
# Environment variables

Variables override the settings of a configuration. A typed variable that does not hold a value of
its setting stops the override; of the logging variables, one that does not is passed over. So is any
variable whose bytes are not the encoding of a text.
-/

namespace LoadTest

/-- The variables that are set, with the bytes of their values. -/
abbrev Environment := List (String × ByteArray)

/-- The text of a variable that is set to one. -/
def Environment.text? (env : Environment) (name : String) : Option String :=
  (env.lookup name).bind String.fromUTF8?

/-- One variable: its name, and what its trimmed text does to a configuration. -/
structure Override where
  name : String
  apply : String → Config → Except LiteralFlaw Config

namespace Override

def count (name : String) (set : Nat → Config → Config) : Override :=
  ⟨name, fun text c => (parseCount text).map fun n => set n c⟩

def float (name : String) (set : Float → Config → Config) : Override :=
  ⟨name, fun text c => (parseFloat text).map fun x => set x c⟩

def truth (name : String) (set : Bool → Config → Config) : Override :=
  ⟨name, fun text c => (parseTruth text).map fun b => set b c⟩

/-- A duration in whole milliseconds. -/
def millis (name : String) (set : Duration → Config → Config) : Override :=
  count name fun n => set (.ofMillis (UInt64.ofNat n))

/-- A threshold for regressions. -/
def threshold (name : String)
    (set : Float → RegressionThresholds Float → RegressionThresholds Float) : Override :=
  float name fun x c =>
    { c with analyzer := { c.analyzer with thresholds := set x c.analyzer.thresholds } }

def generator : List Override :=
  [count "STAMPEDE_MAX_RAMP_STEPS" fun n c =>
     { c with generator := { c.generator with maxRampSteps := n } },
   count "STAMPEDE_WARMUP_CONCURRENCY" fun n c =>
     { c with generator := { c.generator with warmupConcurrency := n } },
   millis "STAMPEDE_PROGRESS_INTERVAL_MS" fun d c =>
     { c with generator := { c.generator with progressInterval := d } },
   millis "STAMPEDE_THROUGHPUT_WINDOW_MS" fun d c =>
     { c with generator := { c.generator with throughputWindow := d } },
   truth "STAMPEDE_SAMPLE_RESOURCES" fun b c =>
     { c with generator := { c.generator with sampleResources := b } }]

def sampler : List Override :=
  [millis "STAMPEDE_SAMPLER_INTERVAL_MS" fun d c =>
     { c with sampler := { c.sampler with interval := d } },
   count "STAMPEDE_LEAK_THRESHOLD_BYTES" fun n c =>
     { c with sampler := { c.sampler with leakThresholdBytes := UInt64.ofNat n } }]

def coordinator : List Override :=
  [count "STAMPEDE_MAX_WORKERS" fun n c =>
     { c with coordinator := { c.coordinator with maxWorkers := some n } }]

def analyzer : List Override :=
  [threshold "STAMPEDE_THROUGHPUT_THRESHOLD" fun x t => { t with throughput := x },
   threshold "STAMPEDE_RESPONSE_TIME_THRESHOLD" fun x t => { t with responseTime := x },
   threshold "STAMPEDE_MEMORY_THRESHOLD" fun x t => { t with memory := x },
   threshold "STAMPEDE_ERROR_RATE_THRESHOLD" fun x t => { t with errorRate := x },
   threshold "STAMPEDE_CPU_THRESHOLD" fun x t => { t with cpu := x },
   count "STAMPEDE_TREND_WINDOW" fun n c =>
     { c with analyzer := { c.analyzer with trendWindow := n } }]

/-- The typed variables, in the order in which they are read. -/
def all : List Override := generator ++ sampler ++ coordinator ++ analyzer

end Override

namespace LoggingSettings

/-- The truth value of a variable, or what holds without it. -/
def truthOr (env : Environment) (name : String) (otherwise : Bool) : Bool :=
  match env.text? name with
  | some text => (parseTruth text).toOption.getD otherwise
  | none => otherwise

/-- Applies the logging variables; their texts are taken as they are. -/
def withEnvironment (s : LoggingSettings) (env : Environment) : LoggingSettings where
  directory := env.text? "STAMPEDE_LOG_DIR" <|> s.directory
  fileName := (env.text? "STAMPEDE_LOG_FILE_NAME").getD s.fileName
  fileFilter := (env.text? "STAMPEDE_LOG_FILE_LEVEL").getD s.fileFilter
  consoleFilter := (env.text? "STAMPEDE_LOG_CONSOLE_LEVEL").getD s.consoleFilter
  consoleEnabled := truthOr env "STAMPEDE_LOG_CONSOLE" s.consoleEnabled
  jsonFormat := truthOr env "STAMPEDE_LOG_JSON" s.jsonFormat

end LoggingSettings

namespace Config

/-- Applies one variable, if it is set to a text. -/
def override (env : Environment) (c : Config) (o : Override) : Except ConfigFailure Config :=
  match env.text? o.name with
  | none => .ok c
  | some text =>
    match o.apply (trim text) c with
    | .ok c => .ok c
    | .error flaw => .error (.environment (o.name ++ ": " ++ flaw.message))

/-- Applies every variable that is set to a text. -/
def withEnvironment (c : Config) (env : Environment) : Except ConfigFailure Config := do
  let c ← Override.all.foldlM (override env) c
  return { c with logging := c.logging.withEnvironment env }

/-- The defaults, with every variable that is set to a text applied. -/
def ofEnvironment (env : Environment) : Except ConfigFailure Config :=
  ({} : Config).withEnvironment env

end Config

end LoadTest
