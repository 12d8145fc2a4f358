import LoadTest.Config.Environment
import LoadTest.Proofs.LiteralValues

/-!
# What the environment sets

Overriding a configuration changes the settings whose variables are set to a text, each to the value
that the text says, and no other. A typed variable whose text says no value of its setting stops the
override, the first in the order of `typedVariables`; a logging variable never does. A variable whose
bytes encode no text counts as one that is not set.
-/

namespace LoadTest.Proofs

/-! ### Settings and their variables -/

/-- The variable is set to the encoding of a text. -/
def SetTo (env : Environment) (name text : String) : Prop := env.lookup name = some text.toUTF8

def SaysWord (text : String) (w : UInt64) : Prop := SaysCount text w.toNat

/-- A count of milliseconds. -/
def SaysMillis (text : String) (d : Duration) : Prop :=
  ∃ ms, SaysCount text ms ∧ d.nanos = ms * 1000000

def SaysLimit (text : String) (limit : Option ℕ) : Prop := ∃ n, SaysCount text n ∧ limit = some n

/-- What a typed variable's text is read as. -/
inductive Reading where
  | count
  | float
  | truth

namespace Reading

def Accepts : Reading → String → Prop
  | .count, text => ∃ n, SaysCount text n
  | .float, text => ∃ x, SaysFloat text x
  | .truth, text => ∃ b, SaysTruth text b

def Refuses : Reading → String → LiteralFlaw → Prop
  | .count => CountFlaw
  | .float => FloatFlaw
  | .truth => TruthFlaw

end Reading

structure TypedVariable where
  name : String
  reading : Reading

/-- The variables that can stop an override, in the order in which they are read. -/
def typedVariables : List TypedVariable :=
  [⟨"STAMPEDE_MAX_RAMP_STEPS", .count⟩,
   ⟨"STAMPEDE_WARMUP_CONCURRENCY", .count⟩,
   ⟨"STAMPEDE_PROGRESS_INTERVAL_MS", .count⟩,
   ⟨"STAMPEDE_THROUGHPUT_WINDOW_MS", .count⟩,
   ⟨"STAMPEDE_SAMPLE_RESOURCES", .truth⟩,
   ⟨"STAMPEDE_SAMPLER_INTERVAL_MS", .count⟩,
   ⟨"STAMPEDE_LEAK_THRESHOLD_BYTES", .count⟩,
   ⟨"STAMPEDE_MAX_WORKERS", .count⟩,
   ⟨"STAMPEDE_THROUGHPUT_THRESHOLD", .float⟩,
   ⟨"STAMPEDE_RESPONSE_TIME_THRESHOLD", .float⟩,
   ⟨"STAMPEDE_MEMORY_THRESHOLD", .float⟩,
   ⟨"STAMPEDE_ERROR_RATE_THRESHOLD", .float⟩,
   ⟨"STAMPEDE_CPU_THRESHOLD", .float⟩,
   ⟨"STAMPEDE_TREND_WINDOW", .count⟩]

namespace TypedVariable

/-- The variable is not set to a text, or to one with a value of its kind between white space. -/
def Readable (env : Environment) (v : TypedVariable) : Prop :=
  ∀ text, SetTo env v.name text → ∃ core, Trimmed text core ∧ v.reading.Accepts core

/-- The variable is set to a text that is no value of its kind; the failure names it. -/
def Fails (env : Environment) (v : TypedVariable) (failure : ConfigFailure) : Prop :=
  ∃ text core flaw, SetTo env v.name text ∧ Trimmed text core ∧ v.reading.Refuses core flaw ∧
    failure = .environment (v.name ++ ": " ++ flaw.message)

end TypedVariable

/-- The failure of the first variable that is not readable. -/
inductive FirstFailure (env : Environment) : List TypedVariable → ConfigFailure → Prop where
  | here {v vs failure} : v.Fails env failure → FirstFailure env (v :: vs) failure
  | later {v vs failure} : v.Readable env → FirstFailure env vs failure →
      FirstFailure env (v :: vs) failure

section Settings

variable {α : Type}

/-- A setting before and after: what the text of its variable says, or as it was if that is set to
none. -/
def Held (env : Environment) (name : String) (Says : String → α → Prop) (old new : α) : Prop :=
  (∀ text, SetTo env name text → Says text new) ∧ ((∀ text, ¬SetTo env name text) → new = old)

/-- A typed setting; white space around the value is passed over. -/
def TypedHeld (env : Environment) (name : String) (Says : String → α → Prop) (old new : α) : Prop :=
  Held env name (fun text v => ∃ core, Trimmed text core ∧ Says core v) old new

/-- A logging switch, which a text that is no truth value leaves as it was. -/
def SwitchHeld (env : Environment) (name : String) (old new : Bool) : Prop :=
  Held env name (fun text b => SaysTruth text b ∨ (∀ b', ¬SaysTruth text b') ∧ b = old) old new

end Settings

structure GeneratorOverridden (env : Environment) (s s' : GeneratorSettings) : Prop where
  maxRampSteps : TypedHeld env "STAMPEDE_MAX_RAMP_STEPS" SaysCount s.maxRampSteps s'.maxRampSteps
  warmupConcurrency : TypedHeld env "STAMPEDE_WARMUP_CONCURRENCY" SaysCount
    s.warmupConcurrency s'.warmupConcurrency
  progressInterval : TypedHeld env "STAMPEDE_PROGRESS_INTERVAL_MS" SaysMillis
    s.progressInterval s'.progressInterval
  throughputWindow : TypedHeld env "STAMPEDE_THROUGHPUT_WINDOW_MS" SaysMillis
    s.throughputWindow s'.throughputWindow
  sampleResources : TypedHeld env "STAMPEDE_SAMPLE_RESOURCES" SaysTruth
    s.sampleResources s'.sampleResources
  eventBuffer : s'.eventBuffer = s.eventBuffer

structure SamplerOverridden (env : Environment) (s s' : SamplerSettings) : Prop where
  interval : TypedHeld env "STAMPEDE_SAMPLER_INTERVAL_MS" SaysMillis s.interval s'.interval
  leakThresholdBytes : TypedHeld env "STAMPEDE_LEAK_THRESHOLD_BYTES" SaysWord
    s.leakThresholdBytes s'.leakThresholdBytes
  leakWindow : s'.leakWindow = s.leakWindow

structure CoordinatorOverridden (env : Environment) (s s' : CoordinatorSettings) : Prop where
  maxWorkers : TypedHeld env "STAMPEDE_MAX_WORKERS" SaysLimit s.maxWorkers s'.maxWorkers
  threadName : s'.threadName = s.threadName
  threadStackSize : s'.threadStackSize = s.threadStackSize

structure ThresholdsOverridden (env : Environment) (t t' : RegressionThresholds Float) : Prop where
  throughput : TypedHeld env "STAMPEDE_THROUGHPUT_THRESHOLD" SaysFloat t.throughput t'.throughput
  responseTime : TypedHeld env "STAMPEDE_RESPONSE_TIME_THRESHOLD" SaysFloat
    t.responseTime t'.responseTime
  memory : TypedHeld env "STAMPEDE_MEMORY_THRESHOLD" SaysFloat t.memory t'.memory
  errorRate : TypedHeld env "STAMPEDE_ERROR_RATE_THRESHOLD" SaysFloat t.errorRate t'.errorRate
  cpu : TypedHeld env "STAMPEDE_CPU_THRESHOLD" SaysFloat t.cpu t'.cpu

structure AnalyzerOverridden (env : Environment) (s s' : AnalyzerSettings) : Prop where
  thresholds : ThresholdsOverridden env s.thresholds s'.thresholds
  trendWindow : TypedHeld env "STAMPEDE_TREND_WINDOW" SaysCount s.trendWindow s'.trendWindow
  improvementThreshold : s'.improvementThreshold = s.improvementThreshold
  slopeThreshold : s'.slopeThreshold = s.slopeThreshold
  bottlenecks : s'.bottlenecks = s.bottlenecks

structure LoggingOverridden (env : Environment) (s s' : LoggingSettings) : Prop where
  directory : Held env "STAMPEDE_LOG_DIR" (fun text d => d = some text) s.directory s'.directory
  fileName : Held env "STAMPEDE_LOG_FILE_NAME" (fun text t => t = text) s.fileName s'.fileName
  fileFilter : Held env "STAMPEDE_LOG_FILE_LEVEL" (fun text t => t = text)
    s.fileFilter s'.fileFilter
  consoleFilter : Held env "STAMPEDE_LOG_CONSOLE_LEVEL" (fun text t => t = text)
    s.consoleFilter s'.consoleFilter
  consoleEnabled : SwitchHeld env "STAMPEDE_LOG_CONSOLE" s.consoleEnabled s'.consoleEnabled
  jsonFormat : SwitchHeld env "STAMPEDE_LOG_JSON" s.jsonFormat s'.jsonFormat

/-- A configuration before and after the variables of an environment are applied. -/
structure Overridden (env : Environment) (c c' : Config) : Prop where
  generator : GeneratorOverridden env c.generator c'.generator
  sampler : SamplerOverridden env c.sampler c'.sampler
  coordinator : CoordinatorOverridden env c.coordinator c'.coordinator
  analyzer : AnalyzerOverridden env c.analyzer c'.analyzer
  logging : LoggingOverridden env c.logging c'.logging

section Applying

variable {α : Type} {env : Environment} {c c' : Config}

lemma text?_eq_some {name text : String} : env.text? name = some text ↔ SetTo env name text := by
  unfold Environment.text? SetTo
  rw [Option.bind_eq_some_iff]
  constructor
  · rintro ⟨bytes, hset, htext⟩
    unfold String.fromUTF8? at htext
    split at htext
    · cases htext
      exact hset
    · cases htext
  · intro hset
    refine ⟨_, hset, ?_⟩
    exact dif_pos text.isValidUTF8

lemma held_none {name : String} {Says : String → α → Prop} {old new : α}
    (h : env.text? name = none) : Held env name Says old new ↔ new = old := by
  have hunset : ∀ text, ¬SetTo env name text := by
    simp only [← text?_eq_some, h, reduceCtorEq, not_false_eq_true, implies_true]
  constructor
  · intro hheld
    exact hheld.2 hunset
  · intro hnew
    exact ⟨fun text hset => absurd hset (hunset text), fun _ => hnew⟩

lemma held_some {name text : String} {Says : String → α → Prop} {old new : α}
    (h : env.text? name = some text) : Held env name Says old new ↔ Says text new := by
  constructor
  · intro hheld
    exact hheld.1 text (text?_eq_some.1 h)
  · intro hsays
    refine ⟨fun text' hset => ?_, fun hunset => absurd (text?_eq_some.1 h) (hunset text)⟩
    cases h.symm.trans (text?_eq_some.2 hset)
    exact hsays

lemma exists_trimmed {text : String} {P : String → Prop} :
    (∃ core, Trimmed text core ∧ P core) ↔ P (trim text) := by
  simp only [trimmed_iff, exists_eq_left]

lemma Held.again {name : String} {Says : String → α → Prop} {old new : α}
    (h : Held env name Says old new) : Held env name Says new new := by
  cases hset : env.text? name with
  | none => exact (held_none hset).2 rfl
  | some text => exact (held_some hset).2 ((held_some hset).1 h)

/-- A switch that was left as it was is left so again. -/
lemma SwitchHeld.again {name : String} {old new : Bool} (h : SwitchHeld env name old new) :
    SwitchHeld env name new new := by
  cases hset : env.text? name with
  | none => exact (held_none hset).2 rfl
  | some text =>
    apply (held_some hset).2
    exact ((held_some hset).1 h).imp_right fun hnone => ⟨hnone.1, rfl⟩

/-- Variables that have been applied once change nothing any more. -/
lemma Overridden.again (h : Overridden env c c') : Overridden env c' c' where
  generator := ⟨h.generator.maxRampSteps.again, h.generator.warmupConcurrency.again,
    h.generator.progressInterval.again, h.generator.throughputWindow.again,
    h.generator.sampleResources.again, rfl⟩
  sampler := ⟨h.sampler.interval.again, h.sampler.leakThresholdBytes.again, rfl⟩
  coordinator := ⟨h.coordinator.maxWorkers.again, rfl, rfl⟩
  analyzer := ⟨⟨h.analyzer.thresholds.throughput.again, h.analyzer.thresholds.responseTime.again,
      h.analyzer.thresholds.memory.again, h.analyzer.thresholds.errorRate.again,
      h.analyzer.thresholds.cpu.again⟩, h.analyzer.trendWindow.again, rfl, rfl, rfl⟩
  logging := ⟨h.logging.directory.again, h.logging.fileName.again, h.logging.fileFilter.again,
    h.logging.consoleFilter.again, h.logging.consoleEnabled.again, h.logging.jsonFormat.again⟩

/-- An override sets one setting to the value that a text says. -/
def Sets (o : Override) (Says : String → α → Prop) (set : α → Config → Config) : Prop :=
  ∀ text c c', o.apply text c = .ok c' ↔ ∃ v, Says text v ∧ c' = set v c

lemma sets_count (name : String) (set : ℕ → Config → Config) :
    Sets (.count name set) SaysCount set := by
  intro text c c'
  simp only [← parseCount_eq_ok]
  exact map_eq_ok

lemma sets_float (name : String) (set : Float → Config → Config) :
    Sets (.float name set) SaysFloat set := by
  intro text c c'
  simp only [← parseFloat_eq_ok]
  exact map_eq_ok

lemma sets_truth (name : String) (set : Bool → Config → Config) :
    Sets (.truth name set) SaysTruth set := by
  intro text c c'
  simp only [← parseTruth_eq_ok]
  exact map_eq_ok

/-- A setting that is computed from a simpler value. -/
lemma Sets.via {β : Type} {o : Override} {Says : String → α → Prop} {SaysIt : String → β → Prop}
    {f : α → β} {set : β → Config → Config} (h : Sets o Says fun v => set (f v))
    (hmeans : ∀ text b, SaysIt text b ↔ ∃ v, Says text v ∧ b = f v) : Sets o SaysIt set := by
  intro text c c'
  rw [h]
  constructor
  · rintro ⟨v, hv, rfl⟩
    exact ⟨f v, (hmeans text _).2 ⟨v, hv, rfl⟩, rfl⟩
  · rintro ⟨b, hb, rfl⟩
    obtain ⟨v, hv, rfl⟩ := (hmeans text b).1 hb
    exact ⟨v, hv, rfl⟩

lemma SaysCount.toNat {text : String} {n : ℕ} (h : SaysCount text n) :
    (UInt64.ofNat n).toNat = n := by
  obtain ⟨_, -, -, -, -, hlt⟩ := h
  rw [UInt64.toNat_ofNat']
  exact Nat.mod_eq_of_lt hlt

lemma sets_millis (name : String) (set : Duration → Config → Config) :
    Sets (.millis name set) SaysMillis set := by
  apply (sets_count name _).via
  intro text d
  constructor
  · rintro ⟨ms, hms, hd⟩
    refine ⟨ms, hms, ?_⟩
    cases d
    simpa [Duration.ofMillis, hms.toNat] using hd
  · rintro ⟨ms, hms, rfl⟩
    exact ⟨ms, hms, congrArg (· * 1000000) hms.toNat⟩

lemma sets_word (name : String) (set : UInt64 → Config → Config) :
    Sets (.count name fun n => set (.ofNat n)) SaysWord set := by
  apply (sets_count name _).via
  intro text w
  constructor
  · intro hw
    exact ⟨w.toNat, hw, (UInt64.ofNat_toNat).symm⟩
  · rintro ⟨n, hn, rfl⟩
    unfold SaysWord
    rwa [hn.toNat]

lemma sets_limit (name : String) (set : Option ℕ → Config → Config) :
    Sets (.count name fun n => set (some n)) SaysLimit set :=
  (sets_count name fun n => set (some n)).via fun _ _ => Iff.rfl

/-- The setting of a variable that is not set keeps its value. -/
lemma override_eq_ok {o : Override} {Says : String → α → Prop} {set : α → Config → Config}
    (h : Sets o Says set) (get : Config → α) (hget : ∀ c, set (get c) c = c) :
    c.override env o = .ok c' ↔ ∃ v, TypedHeld env o.name Says (get c) v ∧ c' = set v c := by
  unfold Config.override TypedHeld
  cases hset : env.text? o.name with
  | none =>
    simp only [held_none hset, exists_eq_left, hget, Except.ok.injEq, eq_comm]
  | some text =>
    simp only [held_some hset, exists_trimmed, ← h (trim text)]
    cases o.apply (trim text) c <;> simp

/-- Applying a list of variables one after the other. -/
lemma override_then {o : Override} {os : List Override} {Says : String → α → Prop}
    {set : α → Config → Config} {P : α → Prop} (h : Sets o Says set) (get : Config → α)
    (hget : ∀ c, set (get c) c = c)
    (hrest : ∀ v, os.foldlM (Config.override env) (set v c) = .ok c' ↔ P v) :
    (o :: os).foldlM (Config.override env) c = .ok c' ↔
      ∃ v, TypedHeld env o.name Says (get c) v ∧ P v := by
  rw [List.foldlM_cons, bind_eq_ok]
  simp only [override_eq_ok h get hget]
  constructor
  · rintro ⟨_, ⟨v, hv, rfl⟩, hv'⟩
    exact ⟨v, hv, (hrest v).1 hv'⟩
  · rintro ⟨v, hv, hP⟩
    exact ⟨_, ⟨v, hv, rfl⟩, (hrest v).2 hP⟩

lemma override_nil : ([] : List Override).foldlM (Config.override env) c = .ok c' ↔ c' = c := by
  rw [List.foldlM_nil]
  exact Except.ok.injEq c c' ▸ eq_comm

lemma override_generator :
    Override.generator.foldlM (Config.override env) c = .ok c' ↔
      ∃ s, GeneratorOverridden env c.generator s ∧ c' = { c with generator := s } := by
  refine Iff.trans (override_then (sets_count _ _) (fun c => c.generator.maxRampSteps) (fun _ => rfl)
    fun _ => override_then (sets_count _ _) (fun c => c.generator.warmupConcurrency) (fun _ => rfl)
    fun _ => override_then (sets_millis _ _) (fun c => c.generator.progressInterval) (fun _ => rfl)
    fun _ => override_then (sets_millis _ _) (fun c => c.generator.throughputWindow) (fun _ => rfl)
    fun _ => override_then (sets_truth _ _) (fun c => c.generator.sampleResources) (fun _ => rfl)
    fun _ => override_nil) ?_
  constructor
  · rintro ⟨steps, hsteps, warmup, hwarmup, progress, hprogress, window, hwindow, samples, hsamples,
      rfl⟩
    exact ⟨⟨steps, warmup, progress, window, c.generator.eventBuffer, samples⟩,
      ⟨hsteps, hwarmup, hprogress, hwindow, hsamples, rfl⟩, rfl⟩
  · rintro ⟨⟨steps, warmup, progress, window, buffer, samples⟩, h, rfl⟩
    obtain rfl : buffer = _ := h.eventBuffer
    exact ⟨_, h.maxRampSteps, _, h.warmupConcurrency, _, h.progressInterval, _, h.throughputWindow,
      _, h.sampleResources, rfl⟩

lemma override_sampler :
    Override.sampler.foldlM (Config.override env) c = .ok c' ↔
      ∃ s, SamplerOverridden env c.sampler s ∧ c' = { c with sampler := s } := by
  refine Iff.trans (override_then (sets_millis _ _) (fun c => c.sampler.interval) (fun _ => rfl)
    fun _ => override_then (sets_word _ fun w c =>
      { c with sampler := { c.sampler with leakThresholdBytes := w } })
      (fun c => c.sampler.leakThresholdBytes) (fun _ => rfl)
    fun _ => override_nil) ?_
  constructor
  · rintro ⟨interval, hinterval, bytes, hbytes, rfl⟩
    exact ⟨⟨interval, bytes, c.sampler.leakWindow⟩, ⟨hinterval, hbytes, rfl⟩, rfl⟩
  · rintro ⟨⟨interval, bytes, window⟩, h, rfl⟩
    obtain rfl : window = _ := h.leakWindow
    exact ⟨_, h.interval, _, h.leakThresholdBytes, rfl⟩

lemma override_coordinator :
    Override.coordinator.foldlM (Config.override env) c = .ok c' ↔
      ∃ s, CoordinatorOverridden env c.coordinator s ∧ c' = { c with coordinator := s } := by
  refine Iff.trans (override_then (sets_limit _ fun n c =>
      { c with coordinator := { c.coordinator with maxWorkers := n } })
      (fun c => c.coordinator.maxWorkers) (fun _ => rfl)
    fun _ => override_nil) ?_
  constructor
  · rintro ⟨workers, hworkers, rfl⟩
    exact ⟨⟨workers, c.coordinator.threadName, c.coordinator.threadStackSize⟩,
      ⟨hworkers, rfl, rfl⟩, rfl⟩
  · rintro ⟨⟨workers, name, size⟩, h, rfl⟩
    obtain rfl : name = _ := h.threadName
    obtain rfl : size = _ := h.threadStackSize
    exact ⟨_, h.maxWorkers, rfl⟩

lemma override_analyzer :
    Override.analyzer.foldlM (Config.override env) c = .ok c' ↔
      ∃ s, AnalyzerOverridden env c.analyzer s ∧ c' = { c with analyzer := s } := by
  refine Iff.trans (override_then (sets_float _ _) (fun c => c.analyzer.thresholds.throughput)
      (fun _ => rfl)
    fun _ => override_then (sets_float _ _) (fun c => c.analyzer.thresholds.responseTime)
      (fun _ => rfl)
    fun _ => override_then (sets_float _ _) (fun c => c.analyzer.thresholds.memory) (fun _ => rfl)
    fun _ => override_then (sets_float _ _) (fun c => c.analyzer.thresholds.errorRate)
      (fun _ => rfl)
    fun _ => override_then (sets_float _ _) (fun c => c.analyzer.thresholds.cpu) (fun _ => rfl)
    fun _ => override_then (sets_count _ _) (fun c => c.analyzer.trendWindow) (fun _ => rfl)
    fun _ => override_nil) ?_
  constructor
  · rintro ⟨throughput, hthroughput, time, htime, memory, hmemory, errors, herrors, cpu, hcpu,
      window, hwindow, rfl⟩
    exact ⟨{ c.analyzer with
        thresholds := ⟨throughput, time, memory, errors, cpu⟩, trendWindow := window },
      ⟨⟨hthroughput, htime, hmemory, herrors, hcpu⟩, hwindow, rfl, rfl, rfl⟩, rfl⟩
  · rintro ⟨⟨thresholds, improvement, window, slope, limits⟩, h, rfl⟩
    obtain rfl : improvement = _ := h.improvementThreshold
    obtain rfl : slope = _ := h.slopeThreshold
    obtain rfl : limits = _ := h.bottlenecks
    exact ⟨_, h.thresholds.throughput, _, h.thresholds.responseTime, _, h.thresholds.memory, _,
      h.thresholds.errorRate, _, h.thresholds.cpu, _, h.trendWindow, rfl⟩

lemma held_text {name old new : String} :
    Held env name (fun text t => t = text) old new ↔ new = (env.text? name).getD old := by
  cases hset : env.text? name with
  | none => exact held_none hset
  | some text => exact held_some hset

lemma held_directory {name : String} {old new : Option String} :
    Held env name (fun text d => d = some text) old new ↔ new = (env.text? name <|> old) := by
  cases hset : env.text? name with
  | none => exact held_none hset
  | some text => exact held_some hset

lemma switchHeld_iff {name : String} {old new : Bool} :
    SwitchHeld env name old new ↔ new = LoggingSettings.truthOr env name old := by
  unfold SwitchHeld LoggingSettings.truthOr
  cases hset : env.text? name with
  | none => exact held_none hset
  | some text =>
    rw [held_some hset]
    simp only [← parseTruth_eq_ok]
    cases parseTruth text <;> simp [Except.toOption, eq_comm]

lemma logging_withEnvironment {s s' : LoggingSettings} :
    s' = s.withEnvironment env ↔ LoggingOverridden env s s' := by
  constructor
  · rintro rfl
    exact ⟨held_directory.2 rfl, held_text.2 rfl, held_text.2 rfl, held_text.2 rfl,
      switchHeld_iff.2 rfl, switchHeld_iff.2 rfl⟩
  · intro h
    obtain ⟨directory, fileName, fileFilter, consoleFilter, enabled, json⟩ := s'
    obtain rfl : directory = _ := held_directory.1 h.directory
    obtain rfl : fileName = _ := held_text.1 h.fileName
    obtain rfl : fileFilter = _ := held_text.1 h.fileFilter
    obtain rfl : consoleFilter = _ := held_text.1 h.consoleFilter
    obtain rfl : enabled = _ := switchHeld_iff.1 h.consoleEnabled
    obtain rfl : json = _ := switchHeld_iff.1 h.jsonFormat
    rfl

lemma withEnvironment_eq_ok : c.withEnvironment env = .ok c' ↔ Overridden env c c' := by
  unfold Config.withEnvironment Override.all
  simp only [List.foldlM_append, bind_eq_ok, override_generator, override_sampler,
    override_coordinator, override_analyzer]
  constructor
  · rintro ⟨_, ⟨_, ⟨_, ⟨_, ⟨g, hg, rfl⟩, s, hs, rfl⟩, w, hw, rfl⟩, a, ha, rfl⟩, hlogging⟩
    cases hlogging
    exact ⟨hg, hs, hw, ha, logging_withEnvironment.1 rfl⟩
  · intro h
    refine ⟨_, ⟨_, ⟨_, ⟨_, ⟨_, h.generator, rfl⟩, _, h.sampler, rfl⟩, _, h.coordinator, rfl⟩, _,
      h.analyzer, rfl⟩, ?_⟩
    exact congrArg (fun l => Except.ok { c' with logging := l })
      (logging_withEnvironment.2 h.logging).symm

end Applying

section Stopping

variable {env : Environment} {c : Config} {v : TypedVariable} {o : Override}
  {failure : ConfigFailure}

/-- A variable and the override that reads it. -/
structure ReadBy (v : TypedVariable) (o : Override) : Prop where
  name : o.name = v.name
  accepts : ∀ text c, (∃ c', o.apply text c = .ok c') ↔ v.reading.Accepts text
  refuses : ∀ text c flaw, o.apply text c = .error flaw ↔ v.reading.Refuses text flaw

lemma Sets.accepts {α : Type} {Says : String → α → Prop} {set : α → Config → Config}
    (h : Sets o Says set) (text : String) (c : Config) :
    (∃ c', o.apply text c = .ok c') ↔ ∃ a, Says text a := by
  simp only [h text c]
  constructor
  · rintro ⟨_, a, ha, -⟩
    exact ⟨a, ha⟩
  · rintro ⟨a, ha⟩
    exact ⟨set a c, a, ha, rfl⟩

lemma readBy_count (name : String) (set : ℕ → Config → Config) :
    ReadBy ⟨name, .count⟩ (.count name set) :=
  ⟨rfl, (sets_count name set).accepts, fun _ _ _ => map_eq_error.trans parseCount_eq_error⟩

lemma readBy_float (name : String) (set : Float → Config → Config) :
    ReadBy ⟨name, .float⟩ (.float name set) :=
  ⟨rfl, (sets_float name set).accepts, fun _ _ _ => map_eq_error.trans parseFloat_eq_error⟩

lemma readBy_truth (name : String) (set : Bool → Config → Config) :
    ReadBy ⟨name, .truth⟩ (.truth name set) :=
  ⟨rfl, (sets_truth name set).accepts, fun _ _ _ => map_eq_error.trans parseTruth_eq_error⟩

lemma readBy_all : List.Forall₂ ReadBy typedVariables Override.all :=
  .cons (readBy_count ..) <| .cons (readBy_count ..) <| .cons (readBy_count ..) <|
  .cons (readBy_count ..) <| .cons (readBy_truth ..) <| .cons (readBy_count ..) <|
  .cons (readBy_count ..) <| .cons (readBy_count ..) <| .cons (readBy_float ..) <|
  .cons (readBy_float ..) <| .cons (readBy_float ..) <| .cons (readBy_float ..) <|
  .cons (readBy_float ..) <| .cons (readBy_count ..) .nil

lemma ReadBy.override_ok (h : ReadBy v o) :
    (∃ c', c.override env o = .ok c') ↔ v.Readable env := by
  unfold Config.override TypedVariable.Readable
  simp only [h.name, ← text?_eq_some, exists_trimmed]
  cases env.text? v.name with
  | none => simp
  | some text =>
    simp only [Option.some.injEq, forall_eq', ← h.accepts (trim text) c]
    cases o.apply (trim text) c <;> simp

lemma ReadBy.override_error (h : ReadBy v o) :
    c.override env o = .error failure ↔ v.Fails env failure := by
  unfold Config.override TypedVariable.Fails
  simp only [h.name, ← text?_eq_some, trimmed_iff, exists_and_left, exists_eq_left]
  cases env.text? v.name with
  | none => simp
  | some text =>
    simp only [Option.some.injEq, exists_eq_left', ← h.refuses (trim text) c]
    cases o.apply (trim text) c <;> simp [eq_comm]

lemma firstFailure_cons {vs : List TypedVariable} :
    FirstFailure env (v :: vs) failure ↔
      v.Fails env failure ∨ v.Readable env ∧ FirstFailure env vs failure := by
  constructor
  · intro h
    cases h with
    | here hfails => exact .inl hfails
    | later hread hrest => exact .inr ⟨hread, hrest⟩
  · rintro (hfails | ⟨hread, hrest⟩)
    · exact .here hfails
    · exact .later hread hrest

/-- A variable is read before those that follow it, which do not matter if it fails. -/
lemma foldlM_override_error {vs : List TypedVariable} {os : List Override}
    (h : List.Forall₂ ReadBy vs os) :
    os.foldlM (Config.override env) c = .error failure ↔ FirstFailure env vs failure := by
  induction h generalizing c with
  | nil =>
    constructor
    · intro h
      cases h
    · intro h
      cases h
  | cons hread hrest ih =>
    rw [List.foldlM_cons, bind_eq_error, firstFailure_cons, hread.override_error]
    simp only [ih, exists_and_right, hread.override_ok]

lemma exists_foldlM_override {vs : List TypedVariable} {os : List Override}
    (h : List.Forall₂ ReadBy vs os) :
    (∃ c', os.foldlM (Config.override env) c = .ok c') ↔ ∀ v ∈ vs, v.Readable env := by
  induction h generalizing c with
  | nil =>
    constructor
    · intro _ v hv
      cases hv
    · intro _
      exact ⟨c, rfl⟩
  | cons hread hrest ih =>
    simp only [List.foldlM_cons, bind_eq_ok, List.forall_mem_cons]
    rw [exists_comm]
    simp only [exists_and_left, ih, exists_and_right, hread.override_ok]

lemma withEnvironment_eq_error :
    c.withEnvironment env = .error failure ↔ FirstFailure env typedVariables failure := by
  rw [← foldlM_override_error (c := c) readBy_all, Config.withEnvironment, bind_eq_error]
  simp [pure, Except.pure]

lemma exists_withEnvironment :
    (∃ c', c.withEnvironment env = .ok c') ↔ ∀ v ∈ typedVariables, v.Readable env := by
  rw [← exists_foldlM_override (c := c) readBy_all, Config.withEnvironment]
  simp only [bind_eq_ok]
  constructor
  · rintro ⟨_, c', hc', -⟩
    exact ⟨c', hc'⟩
  · rintro ⟨c', hc'⟩
    exact ⟨_, c', hc', rfl⟩

end Stopping

/-- An override succeeds if every typed variable that is set to a text is readable and otherwise
fails with the first that is not. A result differs from what was overridden in the settings whose
variables are set to a text, which hold what it says; a second override with the same variables
changes nothing. -/
theorem environment_overrides (c : Config) (env : Environment) :
    ((∃ c', c.withEnvironment env = .ok c') ↔ ∀ v ∈ typedVariables, v.Readable env) ∧
      (∀ failure, c.withEnvironment env = .error failure ↔
        FirstFailure env typedVariables failure) ∧
      (∀ c', c.withEnvironment env = .ok c' ↔ Overridden env c c') ∧
      (c.withEnvironment env >>= fun c' => c'.withEnvironment env) = c.withEnvironment env ∧
      (∀ c', Config.ofEnvironment env = .ok c' ↔ Overridden env {} c') ∧
      ∀ failure, Config.ofEnvironment env = .error failure ↔
        FirstFailure env typedVariables failure := by
  refine ⟨exists_withEnvironment, fun _ => withEnvironment_eq_error,
    fun _ => withEnvironment_eq_ok, ?_, fun _ => withEnvironment_eq_ok,
    fun _ => withEnvironment_eq_error⟩
  cases hc : c.withEnvironment env with
  | error failure => rfl
  | ok c' => exact withEnvironment_eq_ok.2 (withEnvironment_eq_ok.1 hc).again

/-- Values between blanks of several kinds, a switch that is no truth value, and bytes that are no
text. -/
def paddedEnvironment : Environment :=
  [("STAMPEDE_MAX_WORKERS", "\u2003+12\n".toUTF8), ("STAMPEDE_TREND_WINDOW", ⟨#[0xff]⟩),
   ("STAMPEDE_THROUGHPUT_THRESHOLD", " -2.5E-1\t".toUTF8), ("STAMPEDE_LOG_CONSOLE", "maybe".toUTF8),
   ("STAMPEDE_SAMPLE_RESOURCES", "false".toUTF8), ("STAMPEDE_LOG_JSON", "true".toUTF8)]

/-- Two typed variables that are no values, the one that is read later first. -/
def brokenEnvironment : Environment :=
  [("STAMPEDE_TREND_WINDOW", "many".toUTF8), ("STAMPEDE_SAMPLE_RESOURCES", "yes".toUTF8)]

theorem environment_overrides_padded :
    (∃ c', ({} : Config).withEnvironment paddedEnvironment = .ok c' ∧
      (∀ v ∈ typedVariables, v.Readable paddedEnvironment) ∧ Overridden paddedEnvironment {} c' ∧
      c'.coordinator.maxWorkers = some 12 ∧ c'.analyzer.trendWindow = 10 ∧
      c'.analyzer.thresholds.throughput = -0.25 ∧ c'.generator.sampleResources = false ∧
      c'.logging.consoleEnabled = ({} : Config).logging.consoleEnabled ∧
      c'.logging.jsonFormat = true) ∧
    ∃ failure, ({} : Config).withEnvironment brokenEnvironment = .error failure ∧
      FirstFailure brokenEnvironment typedVariables failure ∧
      failure =
        .environment "STAMPEDE_SAMPLE_RESOURCES: provided string was not `true` or `false`" := by
  obtain ⟨hread, -, hheld, -⟩ := environment_overrides {} paddedEnvironment
  obtain ⟨-, hfails, -⟩ := environment_overrides {} brokenEnvironment
  exact ⟨⟨_, rfl, hread.1 ⟨_, rfl⟩, (hheld _).1 rfl, rfl, rfl, rfl, rfl, rfl, rfl⟩, _, rfl,
    (hfails _).1 rfl, rfl⟩

/-- The variable is not set, or its bytes encode a value of its kind between white space. -/
def TypedVariable.Parses (env : Environment) (v : TypedVariable) : Prop :=
  ∀ bytes, env.lookup v.name = some bytes →
    ∃ text core, bytes = text.toUTF8 ∧ Trimmed text core ∧ v.reading.Accepts core

/-- A limit that is set to bytes that encode no text. -/
def undecodableEnvironment : Environment := [("STAMPEDE_MAX_WORKERS", ⟨#[0xff]⟩)]

/-- An override succeeds although a variable that is set holds no value of its setting, and leaves
the setting as it was. -/
theorem undecodable_variable_ignored :
    ({} : Config).withEnvironment undecodableEnvironment = .ok {} ∧
      ¬∀ v ∈ typedVariables, v.Parses undecodableEnvironment := by
  refine ⟨rfl, fun hparses => ?_⟩
  obtain ⟨text, _, hbytes, -⟩ :=
    hparses ⟨"STAMPEDE_MAX_WORKERS", .count⟩ (by simp [typedVariables]) _ rfl
  have hundecodable : String.fromUTF8? ⟨#[0xff]⟩ = none := by decide +kernel
  have hdecoded : String.fromUTF8? text.toUTF8 = some text := dif_pos text.isValidUTF8
  rw [← hbytes, hundecodable] at hdecoded
  cases hdecoded

end LoadTest.Proofs
