import LoadTest.Config.Validation
import LoadTest.Proofs.FloatRounding

/-!
# What a validated configuration promises

Validation turns a number away when a comparison with zero says that it is too small. No comparison
holds of an undefined number, so such a number passes every check that is a comparison alone. The
thresholds of regressions and improvements are also checked to be finite. The slope of a trend and
the limits of bottlenecks are not: validation admits exactly the settings in range and, in these
four places, an undefined number.
-/

namespace LoadTest.Proofs

open Float.Model (UnpackedFloat)

/-! ### Comparisons with zero -/

/-- The numbers of a range, and undefined ones. -/
def OrUndefined (range : Float → Prop) (x : Float) : Prop := x.isNaN = true ∨ range x

section Comparisons

variable {x y : Float}

lemma orUndefined_iff {range : Float → Prop} (h : x.isNaN = false) :
    OrUndefined range x ↔ range x := by
  unfold OrUndefined
  rw [h]
  exact or_iff_right Bool.false_ne_true

/-- What the failure of a comparison with zero leaves open. -/
lemma not_compared_zero (u : UnpackedFloat) :
    (!u.lt (.zero .positive)) = (u.isNaN || (UnpackedFloat.zero .positive).le u) ∧
      (!u.le (.zero .positive)) = (u.isNaN || (UnpackedFloat.zero .positive).lt u) := by
  cases u with
  | notANumber => exact ⟨rfl, rfl⟩
  | infinity sign => cases sign <;> exact ⟨rfl, rfl⟩
  | zero sign => exact ⟨rfl, rfl⟩
  | finite sign mantissa exponent => cases sign <;> exact ⟨rfl, rfl⟩

lemma not_lt_zero_iff : ¬x < 0.0 ↔ OrUndefined (0.0 ≤ ·) x := by
  change _ ↔ x.isNaN = true ∨ 0.0 ≤ x
  rw [lt_iff_unpack, le_iff_unpack, unpack_zero, Bool.not_eq_true, ← Bool.not_eq_true',
    (not_compared_zero _).1, Bool.or_eq_true]
  rfl

lemma not_le_zero_iff : ¬x ≤ 0.0 ↔ OrUndefined (0.0 < ·) x := by
  change _ ↔ x.isNaN = true ∨ 0.0 < x
  rw [lt_iff_unpack, le_iff_unpack, unpack_zero, Bool.not_eq_true, ← Bool.not_eq_true',
    (not_compared_zero _).2, Bool.or_eq_true]
  rfl

/-- A check for a finite number above zero. -/
lemma isFinite_and_pos_iff :
    (!x.isFinite || decide (x ≤ 0.0)) = false ↔ x.isFinite = true ∧ 0.0 < x := by
  rw [Bool.or_eq_false_iff, Bool.not_eq_false', decide_eq_false_iff_not, not_le_zero_iff]
  apply and_congr_right
  intro hfinite
  exact orUndefined_iff (isNaN_of_isFinite hfinite)

lemma isFinite_and_nonneg_iff :
    (!x.isFinite || decide (x < 0.0)) = false ↔ x.isFinite = true ∧ 0.0 ≤ x := by
  rw [Bool.or_eq_false_iff, Bool.not_eq_false', decide_eq_false_iff_not, not_lt_zero_iff]
  apply and_congr_right
  intro hfinite
  exact orUndefined_iff (isNaN_of_isFinite hfinite)

end Comparisons

/-! ### The checks of one section -/

/-- Settings of a generator that are in range. -/
structure GeneratorInRange (s : GeneratorSettings) : Prop where
  rampSteps : 1 ≤ s.maxRampSteps ∧ s.maxRampSteps ≤ 1000
  warmupConcurrency : s.warmupConcurrency ≠ 0
  eventBuffer : s.eventBuffer ≠ 0
  progressInterval : s.progressInterval ≠ .zero
  throughputWindow : s.throughputWindow ≠ .zero

structure SamplerInRange (s : SamplerSettings) : Prop where
  interval : s.interval ≠ .zero
  leakWindow : s.leakWindow ≠ 0

structure CoordinatorInRange (s : CoordinatorSettings) : Prop where
  maxWorkers : s.maxWorkers ≠ some 0
  threadName : s.threadName ≠ ""

/-- Settings of an analyzer that are in range, where `notNegative` and `aboveZero` are the ranges of
the slope of a trend and of the limits of bottlenecks. -/
structure AnalyzerInRange (notNegative aboveZero : Float → Prop) (s : AnalyzerSettings) : Prop where
  thresholds : ∀ kind, (s.thresholds.forKind kind).isFinite = true ∧ 0.0 < s.thresholds.forKind kind
  improvementThreshold : s.improvementThreshold.isFinite = true ∧ 0.0 ≤ s.improvementThreshold
  trendWindow : 3 ≤ s.trendWindow
  slopeThreshold : notNegative s.slopeThreshold
  memoryBytes : 0 < s.bottlenecks.memoryBytes
  cpuPercent : aboveZero s.bottlenecks.cpuPercent
  responseMillis : aboveZero s.bottlenecks.responseMillis
  errorRate : aboveZero s.bottlenecks.errorRate

section Checks

lemma flawIf_eq_nil {failed : Bool} {flaw : ConfigFlaw} : flawIf failed flaw = [] ↔ failed = false := by
  cases failed <;> simp [flawIf]

lemma isZero_eq_false {d : Duration} : d.isZero = false ↔ d ≠ .zero := by
  obtain ⟨n, hn⟩ := d
  simp [Duration.isZero, Duration.zero]

lemma generator_flaws_eq_nil {s : GeneratorSettings} : s.flaws = [] ↔ GeneratorInRange s := by
  unfold GeneratorSettings.flaws
  simp only [List.append_eq_nil_iff, flawIf_eq_nil, Bool.or_eq_false_iff, decide_eq_false_iff_not,
    isZero_eq_false, Nat.not_lt]
  constructor
  · rintro ⟨⟨⟨⟨hsome, hmost⟩, hwarmup⟩, hbuffer⟩, hprogress, hwindow⟩
    exact ⟨⟨Nat.pos_of_ne_zero hsome, hmost⟩, hwarmup, hbuffer, hprogress, hwindow⟩
  · rintro ⟨⟨hsome, hmost⟩, hwarmup, hbuffer, hprogress, hwindow⟩
    exact ⟨⟨⟨⟨Nat.ne_of_gt hsome, hmost⟩, hwarmup⟩, hbuffer⟩, hprogress, hwindow⟩

lemma sampler_flaws_eq_nil {s : SamplerSettings} : s.flaws = [] ↔ SamplerInRange s := by
  unfold SamplerSettings.flaws
  simp only [List.append_eq_nil_iff, flawIf_eq_nil, isZero_eq_false, decide_eq_false_iff_not]
  exact ⟨fun ⟨hinterval, hwindow⟩ => ⟨hinterval, hwindow⟩,
    fun ⟨hinterval, hwindow⟩ => ⟨hinterval, hwindow⟩⟩

lemma coordinator_flaws_eq_nil {s : CoordinatorSettings} : s.flaws = [] ↔ CoordinatorInRange s := by
  have hname : s.threadName.isEmpty = false ↔ s.threadName ≠ "" := by
    rw [ne_eq, ← String.isEmpty_iff, Bool.not_eq_true]
  unfold CoordinatorSettings.flaws
  simp only [List.append_eq_nil_iff, flawIf_eq_nil, decide_eq_false_iff_not, hname]
  exact ⟨fun ⟨hworkers, hname⟩ => ⟨hworkers, hname⟩, fun ⟨hworkers, hname⟩ => ⟨hworkers, hname⟩⟩

lemma thresholds_flaws_eq_nil {t : RegressionThresholds Float} :
    t.flaws = [] ↔ ∀ kind, (t.forKind kind).isFinite = true ∧ 0.0 < t.forKind kind := by
  have hsome (x : Float) (flaw : ConfigFlaw) :
      (if !x.isFinite || x ≤ 0.0 then some flaw else none) = none ↔
        x.isFinite = true ∧ 0.0 < x := by
    rw [← isFinite_and_pos_iff, ite_eq_right_iff, ← Bool.not_eq_true]
    simp
  unfold RegressionThresholds.flaws
  rw [List.filterMap_eq_nil_iff]
  simp only [RegressionThresholds.fields, List.zip_cons_cons, List.zip_nil_right,
    List.forall_mem_cons, hsome]
  constructor
  · rintro ⟨hthroughput, hresponse, hmemory, herrors, hcpu, -⟩ kind
    cases kind <;> assumption
  · intro h
    exact ⟨h .throughput, h .responseTime, h .memory, h .errorRate, h .cpu, by simp⟩

/-- The limits are checked by comparison alone. -/
lemma isFlawed_eq_false {l : BottleneckLimits} : l.isFlawed = false ↔ 0 < l.memoryBytes ∧
    OrUndefined (0.0 < ·) l.cpuPercent ∧ OrUndefined (0.0 < ·) l.responseMillis ∧
    OrUndefined (0.0 < ·) l.errorRate := by
  unfold BottleneckLimits.isFlawed
  simp only [Bool.or_eq_false_iff, decide_eq_false_iff_not, not_le_zero_iff, and_assoc,
    UInt64.pos_iff_ne_zero]

end Checks

/-- A configuration in range. -/
structure ConfigInRange (notNegative aboveZero : Float → Prop) (c : Config) : Prop where
  generator : GeneratorInRange c.generator
  sampler : SamplerInRange c.sampler
  coordinator : CoordinatorInRange c.coordinator
  analyzer : AnalyzerInRange notNegative aboveZero c.analyzer

/-- The settings that validation only compares with zero. -/
def comparedAlone (s : AnalyzerSettings) : List Float :=
  [s.slopeThreshold, s.bottlenecks.cpuPercent, s.bottlenecks.responseMillis, s.bottlenecks.errorRate]

section Validation

variable {s : AnalyzerSettings} {c : Config}

lemma analyzer_flaws_eq_nil : s.flaws = [] ↔
    AnalyzerInRange (OrUndefined (0.0 ≤ ·)) (OrUndefined (0.0 < ·)) s := by
  unfold AnalyzerSettings.flaws
  simp only [List.append_eq_nil_iff, flawIf_eq_nil, thresholds_flaws_eq_nil,
    isFinite_and_nonneg_iff, decide_eq_false_iff_not, not_lt_zero_iff, isFlawed_eq_false, Nat.not_lt]
  constructor
  · rintro ⟨⟨⟨⟨hthresholds, himprovement⟩, hwindow⟩, hslope⟩, hmemory, hcpu, hresponse, herrors⟩
    exact ⟨hthresholds, himprovement, hwindow, hslope, hmemory, hcpu, hresponse, herrors⟩
  · rintro ⟨hthresholds, himprovement, hwindow, hslope, hmemory, hcpu, hresponse, herrors⟩
    exact ⟨⟨⟨⟨hthresholds, himprovement⟩, hwindow⟩, hslope⟩, hmemory, hcpu, hresponse, herrors⟩

lemma config_validate_eq_ok : c.validate = .ok () ↔
    ConfigInRange (OrUndefined (0.0 ≤ ·)) (OrUndefined (0.0 < ·)) c := by
  have hflaws : c.validate = .ok () ↔ c.flaws = [] := by
    unfold Config.validate
    cases c.flaws <;> simp
  rw [hflaws]
  unfold Config.flaws
  simp only [List.append_eq_nil_iff, generator_flaws_eq_nil, sampler_flaws_eq_nil,
    coordinator_flaws_eq_nil, analyzer_flaws_eq_nil]
  exact ⟨fun ⟨⟨⟨hgenerator, hsampler⟩, hcoordinator⟩, hanalyzer⟩ =>
      ⟨hgenerator, hsampler, hcoordinator, hanalyzer⟩,
    fun ⟨hgenerator, hsampler, hcoordinator, hanalyzer⟩ =>
      ⟨⟨⟨hgenerator, hsampler⟩, hcoordinator⟩, hanalyzer⟩⟩

/-- Undefined numbers aside, the two readings of the ranges are one. -/
lemma analyzerInRange_iff : AnalyzerInRange (0.0 ≤ ·) (0.0 < ·) s ↔
    AnalyzerInRange (OrUndefined (0.0 ≤ ·)) (OrUndefined (0.0 < ·)) s ∧
      ∀ x ∈ comparedAlone s, x.isNaN = false := by
  simp only [comparedAlone, List.forall_mem_cons]
  constructor
  · intro h
    refine ⟨⟨h.thresholds, h.improvementThreshold, h.trendWindow, .inr h.slopeThreshold,
      h.memoryBytes, .inr h.cpuPercent, .inr h.responseMillis, .inr h.errorRate⟩, ?_⟩
    exact ⟨(isNaN_of_le h.slopeThreshold).2, (isNaN_of_lt h.cpuPercent).2,
      (isNaN_of_lt h.responseMillis).2, (isNaN_of_lt h.errorRate).2, by simp⟩
  · rintro ⟨h, hslope, hcpu, hresponse, herrors, -⟩
    exact ⟨h.thresholds, h.improvementThreshold, h.trendWindow,
      (orUndefined_iff hslope).1 h.slopeThreshold, h.memoryBytes,
      (orUndefined_iff hcpu).1 h.cpuPercent, (orUndefined_iff hresponse).1 h.responseMillis,
      (orUndefined_iff herrors).1 h.errorRate⟩

end Validation

/-- Validation accepts a configuration exactly when every setting is in range, except that the slope
of a trend and three limits of bottlenecks may also be undefined; it means what it says of the
configurations in which these four are numbers. -/
theorem config_valid_iff_in_range (c : Config) :
    (c.validate = .ok () ↔ ConfigInRange (OrUndefined (0.0 ≤ ·)) (OrUndefined (0.0 < ·)) c) ∧
      (ConfigInRange (0.0 ≤ ·) (0.0 < ·) c ↔
        c.validate = .ok () ∧ ∀ x ∈ comparedAlone c.analyzer, x.isNaN = false) := by
  refine ⟨config_validate_eq_ok, ?_⟩
  rw [config_validate_eq_ok]
  constructor
  · rintro ⟨hgenerator, hsampler, hcoordinator, hanalyzer⟩
    obtain ⟨hrange, hdefined⟩ := analyzerInRange_iff.1 hanalyzer
    exact ⟨⟨hgenerator, hsampler, hcoordinator, hrange⟩, hdefined⟩
  · rintro ⟨⟨hgenerator, hsampler, hcoordinator, hrange⟩, hdefined⟩
    exact ⟨hgenerator, hsampler, hcoordinator, analyzerInRange_iff.2 ⟨hrange, hdefined⟩⟩

/-! ### An undefined limit -/

section Limits

/-- The limit of a kind of bottleneck. -/
def limitOf (l : BottleneckLimits) : BottleneckKind → Float
  | .memory => Float.ofNat l.memoryBytes.toNat
  | .cpu => l.cpuPercent
  | .responseTime => l.responseMillis
  | .errorRate => l.errorRate

lemma limit_of_mem_figures {m : Measurements} {l : BottleneckLimits} {f : Bottleneck.Figure}
    (h : f ∈ Bottleneck.figures m l) : f.limit = limitOf l f.kind := by
  unfold Bottleneck.figures at h
  simp only [List.mem_append, List.mem_map, List.mem_flatMap, List.mem_cons, List.not_mem_nil,
    or_false] at h
  obtain (⟨_, -, rfl⟩ | ⟨_, -, rfl | rfl | rfl⟩) | ⟨_, -, rfl | rfl⟩ := h <;> rfl

/-- No measurement is found to be above an undefined limit. -/
lemma limit_defined_of_mem_detect {m : Measurements} {l : BottleneckLimits} {b : Bottleneck}
    (h : b ∈ Bottleneck.detect m l) : (limitOf l b.kind).isNaN = false := by
  unfold Bottleneck.detect at h
  rw [List.mem_mergeSort, List.mem_filterMap] at h
  obtain ⟨f, hf, hfigure⟩ := h
  unfold Bottleneck.ofFigure? at hfigure
  split at hfigure
  · next hover =>
    cases hfigure
    rw [← limit_of_mem_figures hf]
    exact (isNaN_of_lt hover).1
  · cases hfigure

end Limits

/-- A configuration whose limit on the load of the processors is undefined. -/
def unlimitedProcessors : Config :=
  { analyzer := { bottlenecks := { cpuPercent := Float.ofBits 0x7ff8000000000000 } } }

/-- Validation accepts an undefined limit, which is not above zero, and from then on no load of the
processors is a bottleneck. -/
theorem undefined_limit_accepted :
    unlimitedProcessors.validate = .ok () ∧ ¬ConfigInRange (0.0 ≤ ·) (0.0 < ·) unlimitedProcessors ∧
      ∀ m, ∀ b ∈ Bottleneck.detect m unlimitedProcessors.analyzer.bottlenecks, b.kind ≠ .cpu := by
  have hnan : unlimitedProcessors.analyzer.bottlenecks.cpuPercent.isNaN = true := by decide +kernel
  refine ⟨by decide +kernel, ?_, ?_⟩
  · intro h
    have hdefined := (isNaN_of_lt h.analyzer.cpuPercent).2
    rw [hnan] at hdefined
    cases hdefined
  · intro m b hb hkind
    have hdefined := limit_defined_of_mem_detect hb
    rw [hkind] at hdefined
    exact absurd (hnan.symm.trans hdefined) (by decide)

end LoadTest.Proofs
