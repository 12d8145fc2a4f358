import LoadTest.Json.Record

/-!
# Settings of the components

How runs are driven, resources sampled, workers started and lines logged. Every setting has a
default; durations are given in whole milliseconds.
-/

namespace LoadTest

structure GeneratorSettings where
  /-- The most steps in which the load rises. -/
  maxRampSteps : Nat := 10
  /-- How many requests of a warmup or cooldown burst may be pending. -/
  warmupConcurrency : Nat := 4
  progressInterval : Duration := .ofMillis 1000
  throughputWindow : Duration := .ofMillis 1000
  /-- How many events are kept for a reader that lags behind. -/
  eventBuffer : Nat := 256
  sampleResources : Bool := true
  deriving Inhabited, DecidableEq

namespace GeneratorSettings

def toJson (s : GeneratorSettings) : Json :=
  .obj
    [("max_ramp_steps", .nat s.maxRampSteps),
     ("warmup_concurrency", .nat s.warmupConcurrency),
     ("progress_interval", .ofMillis s.progressInterval),
     ("throughput_window", .ofMillis s.throughputWindow),
     ("event_buffer", .nat s.eventBuffer),
     ("sample_resources", .bool s.sampleResources)]

def fields : List String :=
  ["max_ramp_steps", "warmup_concurrency", "progress_interval", "throughput_window",
   "event_buffer", "sample_resources"]

def decode? {ν : Type} (d : Dialect ν) (v : ν) : Option GeneratorSettings := do
  let [steps, warmup, progress, window, buffer, sample] ← d.slots? fields v | none
  let standard : GeneratorSettings := {}
  return {
    maxRampSteps := ← steps.orElse d.word? standard.maxRampSteps
    warmupConcurrency := ← warmup.orElse d.word? standard.warmupConcurrency
    progressInterval := ← progress.orElse d.millis? standard.progressInterval
    throughputWindow := ← window.orElse d.millis? standard.throughputWindow
    eventBuffer := ← buffer.orElse d.word? standard.eventBuffer
    sampleResources := ← sample.orElse d.bool? standard.sampleResources }

end GeneratorSettings

structure SamplerSettings where
  interval : Duration := .ofMillis 1000
  /-- Growth beyond this many bytes is taken for a leak. -/
  leakThresholdBytes : UInt64 := 52428800
  /-- How many samples at each end of a series are averaged. -/
  leakWindow : Nat := 5
  deriving Inhabited, DecidableEq

namespace SamplerSettings

def toJson (s : SamplerSettings) : Json :=
  .obj
    [("interval", .ofMillis s.interval),
     ("leak_threshold_bytes", .ofUInt64 s.leakThresholdBytes),
     ("leak_window", .nat s.leakWindow)]

def decode? {ν : Type} (d : Dialect ν) (v : ν) : Option SamplerSettings := do
  let [interval, threshold, window] ←
    d.slots? ["interval", "leak_threshold_bytes", "leak_window"] v | none
  let standard : SamplerSettings := {}
  return {
    interval := ← interval.orElse d.millis? standard.interval
    leakThresholdBytes := ← threshold.orElse d.uint64? standard.leakThresholdBytes
    leakWindow := ← window.orElse d.word? standard.leakWindow }

end SamplerSettings

structure CoordinatorSettings where
  /-- The most workers; the number of processors where it is not set. -/
  maxWorkers : Option Nat := none
  threadName : String := "stampede-worker"
  threadStackSize : Option Nat := none
  deriving Inhabited, DecidableEq

namespace CoordinatorSettings

/-- The number of workers to plan for, at least one, on a host with the given number of processors. -/
def parallelism (s : CoordinatorSettings) (processors : Nat) : Nat :=
  max (s.maxWorkers.getD processors) 1

def toJson (s : CoordinatorSettings) : Json :=
  .obj
    [("max_workers", .ofOption .nat s.maxWorkers),
     ("thread_name_prefix", .str s.threadName),
     ("thread_stack_size", .ofOption .nat s.threadStackSize)]

def decode? {ν : Type} (d : Dialect ν) (v : ν) : Option CoordinatorSettings := do
  let [workers, name, stack] ←
    d.slots? ["max_workers", "thread_name_prefix", "thread_stack_size"] v | none
  let standard : CoordinatorSettings := {}
  return {
    maxWorkers := ← workers.orNone d d.word?
    threadName := ← name.orElse d.text? standard.threadName
    threadStackSize := ← stack.orNone d d.word? }

end CoordinatorSettings

structure LoggingSettings where
  /-- Where log files go; without it there are none. -/
  directory : Option String := none
  /-- The name of a log file, before its date. -/
  fileName : String := "stampede.log"
  fileFilter : String := "info"
  consoleFilter : String := "warn"
  consoleEnabled : Bool := true
  jsonFormat : Bool := true
  deriving Inhabited, DecidableEq

namespace LoggingSettings

def toJson (s : LoggingSettings) : Json :=
  .obj
    [("log_dir", .ofOption .str s.directory),
     ("file_name", .str s.fileName),
     ("file_log_level", .str s.fileFilter),
     ("console_log_level", .str s.consoleFilter),
     ("console_enabled", .bool s.consoleEnabled),
     ("json_format", .bool s.jsonFormat)]

def fields : List String :=
  ["log_dir", "file_name", "file_log_level", "console_log_level", "console_enabled", "json_format"]

def decode? {ν : Type} (d : Dialect ν) (v : ν) : Option LoggingSettings := do
  let [directory, fileName, fileFilter, consoleFilter, enabled, json] ← d.slots? fields v | none
  let standard : LoggingSettings := {}
  return {
    directory := ← directory.orNone d d.text?
    fileName := ← fileName.orElse d.text? standard.fileName
    fileFilter := ← fileFilter.orElse d.text? standard.fileFilter
    consoleFilter := ← consoleFilter.orElse d.text? standard.consoleFilter
    consoleEnabled := ← enabled.orElse d.bool? standard.consoleEnabled
    jsonFormat := ← json.orElse d.bool? standard.jsonFormat }

end LoggingSettings

end LoadTest
