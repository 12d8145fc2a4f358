import LoadTest.Analysis.Analyzer
import LoadTest.Proofs.JsonRecords
import LoadTest.Proofs.JsonText

/-!
# Reports, baselines and analyses are stored without loss

A report, a baseline or an analysis whose floats are finite is read back from its JSON text as it was
written. JSON has no infinite numbers, and a count takes part in it as a word of 64 bits; nothing
else can be lost. Each record is read back because its parts are, and the text of every record is
that of a plain value.
-/

namespace LoadTest.Proofs

/-! ### Figures -/

/-- The floats and the counts that a value holds, those of its parts included. -/
class HasFigures (α : Type) where
  floats : α → List Float
  counts : α → List ℕ

open HasFigures

/-- Whether some floats are finite and some counts are words of 64 bits. -/
def InRange (floats : List Float) (counts : List ℕ) : Prop :=
  (∀ x ∈ floats, x.isFinite = true) ∧ ∀ n ∈ counts, n < wordLimit

/-- Whether all figures of a value have a number in JSON. -/
def Storable {α : Type} [HasFigures α] (a : α) : Prop := InRange (floats a) (counts a)

instance (floats : List Float) (counts : List ℕ) : Decidable (InRange floats counts) :=
  inferInstanceAs (Decidable (_ ∧ _))

instance {α : Type} [HasFigures α] (a : α) : Decidable (Storable a) :=
  inferInstanceAs (Decidable (InRange _ _))

section Instances

variable {α : Type} [HasFigures α]

instance : HasFigures (List α) where
  floats l := l.flatMap floats
  counts l := l.flatMap counts

instance : HasFigures (Option α) where
  floats o := floats o.toList
  counts o := counts o.toList

instance : HasFigures Schedule where
  floats | .concurrency _ => [] | .rate perSecond => [perSecond]
  counts | .concurrency users => [users] | .rate _ => []

instance : HasFigures (LatencyStats Float) where
  floats s := [s.least, s.greatest, s.mean, s.deviation, s.p50, s.p90, s.p95, s.p99, s.drift]
  counts s := [s.outliers]

instance : HasFigures ThroughputStats where
  floats s := [s.requestsPerSecond, s.avgPerWindow]
  counts s := [s.windowMillis, s.windows, s.minPerWindow, s.maxPerWindow]

instance : HasFigures LoadAverage where
  floats l := [l.one, l.five, l.fifteen]
  counts _ := []

instance : HasFigures ResourceSample where
  floats s := floats s.loadAverage ++ [s.cpuPercent]
  counts s := counts s.loadAverage ++ []

instance : HasFigures (LeakReport Float) where
  floats r := [r.initialMeanBytes, r.finalMeanBytes, r.growthBytes]
  counts _ := []

instance : HasFigures Tally where
  floats _ := []
  counts t := t.entries.map Prod.snd

instance : HasFigures Report where
  floats r := floats r.schedule ++ (floats r.latency ++ (floats r.throughput ++ (floats r.errors ++
    (floats r.resourceSamples ++ (floats r.memoryLeak ++ [r.errorRate])))))
  counts r := counts r.schedule ++ (counts r.latency ++ (counts r.throughput ++ (counts r.errors ++
    (counts r.resourceSamples ++ (counts r.memoryLeak ++ [r.totalRequests, r.successfulRequests,
      r.failedRequests, r.timedOutRequests, r.abandonedRequests, r.skippedRequests])))))

instance : HasFigures BenchmarkFigures where
  floats b := [b.averageTimeMillis.value, b.operationsPerSecond.value]
  counts _ := []

instance : HasFigures LoadFigures where
  floats l := [l.throughput.value, l.averageResponseMillis.value, l.p95ResponseMillis.value,
    l.p99ResponseMillis.value, l.errorRate.value]
  counts _ := []

instance : HasFigures SystemFigures where
  floats s := [s.cpuPercent.value, s.loadAverage.value]
  counts _ := []

instance : HasFigures Measurements where
  floats m := floats m.benchmarks ++ (floats m.loadTests ++ floats m.systems)
  counts m := counts m.benchmarks ++ (counts m.loadTests ++ counts m.systems)

instance : HasFigures Baseline where
  floats b := floats b.measurements
  counts b := counts b.measurements

instance : HasFigures (RegressionFinding Float) where
  floats f := [f.baselineValue, f.currentValue, f.changePercent, f.degradationPercent,
    f.thresholdPercent]
  counts _ := []

instance : HasFigures (ImprovementFinding Float) where
  floats f := [f.baselineValue, f.currentValue, f.changePercent]
  counts _ := []

instance : HasFigures (Trend Float) where
  floats t := [t.slope, t.confidence]
  counts t := [t.points]

instance : HasFigures Bottleneck where
  floats b := [b.value, b.limit]
  counts _ := []

instance : HasFigures AnalysisResult where
  floats a := floats a.regressions ++ (floats a.improvements ++ (floats a.trends ++
    (floats a.bottlenecks ++ [a.overallScore])))
  counts a := counts a.regressions ++ (counts a.improvements ++ (counts a.trends ++
    (counts a.bottlenecks ++ [])))

end Instances

lemma inRange_append {xs ys : List Float} {ms ns : List ℕ} :
    InRange (xs ++ ys) (ms ++ ns) ↔ InRange xs ms ∧ InRange ys ns := by
  unfold InRange
  rw [List.forall_mem_append, List.forall_mem_append]
  exact and_and_and_comm

lemma storable_list {α : Type} [HasFigures α] {l : List α} (h : Storable l) {a : α} (ha : a ∈ l) :
    Storable a :=
  ⟨fun x hx => h.1 x (List.mem_flatMap.2 ⟨a, ha, hx⟩),
    fun n hn => h.2 n (List.mem_flatMap.2 ⟨a, ha, hn⟩)⟩

lemma storable_option {α : Type} [HasFigures α] {o : Option α} (h : Storable o) {a : α}
    (ha : a ∈ o) : Storable a :=
  storable_list (l := o.toList) h (Option.mem_toList.2 ha)

/-! ### Reports -/

section Reports

lemma latency_ofJson?_toJson {s : LatencyStats Float} (h : Storable s) :
    LatencyStats.ofJson? s.toJson = some s := by
  obtain ⟨hfinite, hcounts⟩ := h
  simp only [floats, counts, List.forall_mem_cons] at hfinite hcounts
  obtain ⟨hleast, hgreatest, hmean, hdeviation, hp50, hp90, hp95, hp99, hdrift, -⟩ := hfinite
  refine bind_then (slots?_obj rfl (by decide)) ?_
  exact read_then (float?_ofFloat hleast) <| read_then (float?_ofFloat hgreatest) <|
    read_then (float?_ofFloat hmean) <| read_then (float?_ofFloat hdeviation) <|
    read_then (float?_ofFloat hp50) <| read_then (float?_ofFloat hp90) <|
    read_then (float?_ofFloat hp95) <| read_then (float?_ofFloat hp99) <|
    orElse_then (word?_nat hcounts.1) <| orElse_then (float?_ofFloat hdrift) rfl

lemma throughput_ofJson?_toJson {s : ThroughputStats} (h : Storable s) :
    ThroughputStats.ofJson? s.toJson = some s := by
  obtain ⟨hfinite, hcounts⟩ := h
  simp only [floats, counts, List.forall_mem_cons] at hfinite hcounts
  obtain ⟨hwidth, hwindows, hleast, hgreatest, -⟩ := hcounts
  refine bind_then (slots?_obj rfl (by decide)) ?_
  exact read_then (float?_ofFloat hfinite.1) <| read_then (word?_nat hwidth) <|
    read_then (word?_nat hwindows) <| read_then (word?_nat hleast) <|
    read_then (word?_nat hgreatest) <| read_then (float?_ofFloat hfinite.2.1) rfl

lemma loadAverage_ofJson?_toJson {l : LoadAverage} (h : Storable l) :
    LoadAverage.ofJson? l.toJson = some l := by
  obtain ⟨hfinite, -⟩ := h
  simp only [floats, List.forall_mem_cons] at hfinite
  obtain ⟨hone, hfive, hfifteen, -⟩ := hfinite
  refine bind_then (slots?_obj rfl (by decide)) ?_
  exact read_then (float?_ofFloat hone) <| read_then (float?_ofFloat hfive) <|
    read_then (float?_ofFloat hfifteen) rfl

lemma resourceSample_ofJson?_toJson {s : ResourceSample} (h : Storable s) :
    ResourceSample.ofJson? s.toJson = some s := by
  obtain ⟨hload, hfinite, -⟩ := inRange_append.1 h
  have hcpu : s.cpuPercent.isFinite = true := hfinite _ List.mem_cons_self
  refine bind_then (slots?_obj rfl (by decide)) ?_
  exact read_then (timestamp?_ofTimestamp s.timestamp) <| read_then (float?_ofFloat hcpu) <|
    read_then (uint64?_ofUInt64 s.memoryBytes) <| read_then (loadAverage_ofJson?_toJson hload) rfl

lemma memory_ofJson?_toJson (m : MemoryStats) : MemoryStats.ofJson? m.toJson = some m := by
  refine bind_then (slots?_obj rfl (by decide)) ?_
  exact read_then (uint64?_ofUInt64 m.startBytes) <| read_then (uint64?_ofUInt64 m.peakBytes) <|
    read_then (uint64?_ofUInt64 m.endBytes) rfl

lemma leakReport_ofJson?_toJson {r : LeakReport Float} (h : Storable r) :
    LeakReport.ofJson? r.toJson = some r := by
  obtain ⟨hfinite, -⟩ := h
  simp only [floats, List.forall_mem_cons] at hfinite
  obtain ⟨hinitial, hfinal, hgrowth, -⟩ := hfinite
  refine bind_then (slots?_obj rfl (by decide)) ?_
  exact read_then (float?_ofFloat hinitial) <| read_then (float?_ofFloat hfinal) <|
    read_then (float?_ofFloat hgrowth) <| read_then rfl rfl

/-- A report is read back, also from inside other records. -/
lemma report_ofJson?_toJson {r : Report} {enclosing : ℕ} (henclosing : enclosing < 126)
    (h : Storable r) : Report.ofJson? enclosing r.toJson = some r := by
  obtain ⟨hschedule, h⟩ := inRange_append.1 h
  obtain ⟨hlatency, h⟩ := inRange_append.1 h
  obtain ⟨hthroughput, h⟩ := inRange_append.1 h
  obtain ⟨herrors, h⟩ := inRange_append.1 h
  obtain ⟨hsamples, h⟩ := inRange_append.1 h
  obtain ⟨hleak, hfinite, hcounts⟩ := inRange_append.1 h
  simp only [List.forall_mem_cons] at hfinite hcounts
  obtain ⟨htotal, hsuccessful, hfailed, htimedOut, habandoned, hskipped, -⟩ := hcounts
  have hschedule : Schedule.ofJson? false (enclosing + 1) r.schedule.toJson = some r.schedule := by
    refine schedule_ofJson?_toJson (by omega) ?_ ?_
    · intro x hx
      exact hschedule.1 x (by simp [hx, floats])
    · intro n hn
      exact hschedule.2 n (by simp [hn, counts])
  have herrors : Tally.ofJson? (Tally.toJson r.errors) = some r.errors := by
    apply tally_ofJson?_toJson
    intro e he
    exact herrors.2 e.2 (List.mem_map_of_mem he)
  have hsamples : Json.list? ResourceSample.ofJson? (.ofList ResourceSample.toJson
      r.resourceSamples) = some r.resourceSamples :=
    list?_ofList fun s hs => resourceSample_ofJson?_toJson (storable_list hsamples hs)
  have hleak : Slot.optional Json.dialect LeakReport.ofJson? (.given (.ofOption LeakReport.toJson
      r.memoryLeak)) = some r.memoryLeak := by
    refine optional_ofOption (fun _ _ => rfl) ?_
    intro leak hmem
    exact leakReport_ofJson?_toJson (storable_option hleak hmem)
  refine bind_then (slots?_obj rfl (by decide)) ?_
  exact read_then (runId?_ofRunId r.runId) <| read_then rfl <| read_then hschedule <|
    read_then (timestamp?_ofTimestamp r.startedAt) <|
    read_then (timestamp?_ofTimestamp r.finishedAt) <| read_then (duration?_ofDuration r.elapsed) <|
    read_then (word?_nat htotal) <| read_then (word?_nat hsuccessful) <|
    read_then (word?_nat hfailed) <| read_then (word?_nat htimedOut) <|
    read_then (word?_nat habandoned) <| read_then (word?_nat hskipped) <|
    read_then (float?_ofFloat hfinite.1) <| read_then (latency_ofJson?_toJson hlatency) <|
    read_then (throughput_ofJson?_toJson hthroughput) <|
    read_then (memory_ofJson?_toJson r.memory) <| read_then herrors <| read_then hsamples <|
    bind_then hleak rfl

end Reports

/-! ### Baselines -/

section Baselines

lemma figure_ofJson?_toJson {f : Figure} (h : f.value.isFinite = true) :
    Figure.ofJson? f.toJson = some f := by
  cases f with
  | float x =>
    unfold Figure.ofJson? Figure.toJson
    rw [float?_ofFloat h]
    rfl
  | minusNaN => exact absurd h (by decide +kernel)

lemma benchmark_ofJson?_toJson {b : BenchmarkFigures} (h : Storable b) :
    BenchmarkFigures.ofJson? b.toJson = some b := by
  obtain ⟨hfinite, -⟩ := h
  simp only [floats, List.forall_mem_cons] at hfinite
  refine bind_then (slots?_obj rfl (by decide)) ?_
  exact read_then rfl <| read_then (figure_ofJson?_toJson hfinite.1) <|
    read_then (figure_ofJson?_toJson hfinite.2.1) <| read_then (uint64?_ofUInt64 b.memoryBytes) rfl

lemma loadFigures_ofJson?_toJson {l : LoadFigures} (h : Storable l) :
    LoadFigures.ofJson? l.toJson = some l := by
  obtain ⟨hfinite, -⟩ := h
  simp only [floats, List.forall_mem_cons] at hfinite
  obtain ⟨hthroughput, haverage, hp95, hp99, herrors, -⟩ := hfinite
  refine bind_then (slots?_obj rfl (by decide)) ?_
  exact read_then rfl <| read_then (figure_ofJson?_toJson hthroughput) <|
    read_then (figure_ofJson?_toJson haverage) <| read_then (figure_ofJson?_toJson hp95) <|
    read_then (figure_ofJson?_toJson hp99) <| read_then (figure_ofJson?_toJson herrors) <|
    read_then (uint64?_ofUInt64 l.peakMemoryBytes) rfl

lemma system_ofJson?_toJson {s : SystemFigures} (h : Storable s) :
    SystemFigures.ofJson? s.toJson = some s := by
  obtain ⟨hfinite, -⟩ := h
  simp only [floats, List.forall_mem_cons] at hfinite
  refine bind_then (slots?_obj rfl (by decide)) ?_
  exact read_then rfl <| read_then (figure_ofJson?_toJson hfinite.1) <|
    read_then (uint64?_ofUInt64 s.memoryBytes) <| read_then (figure_ofJson?_toJson hfinite.2.1) rfl

lemma measurements_ofJson?_toJson {m : Measurements} (h : Storable m) :
    Measurements.ofJson? m.toJson = some m := by
  obtain ⟨hbenchmarks, h⟩ := inRange_append.1 h
  obtain ⟨hloadTests, hsystems⟩ := inRange_append.1 h
  have hbenchmark := fun b hb => benchmark_ofJson?_toJson (storable_list (a := b) hbenchmarks hb)
  have hloadTest := fun l hl => loadFigures_ofJson?_toJson (storable_list (a := l) hloadTests hl)
  have hsystem := fun s hs => system_ofJson?_toJson (storable_list (a := s) hsystems hs)
  refine bind_then (slots?_obj rfl (by decide)) ?_
  exact orElse_then (list?_ofList hbenchmark) <| orElse_then (list?_ofList hloadTest) <|
    orElse_then (list?_ofList hsystem) rfl

lemma baseline_ofJson?_toJson {b : Baseline} (h : Storable b) :
    Baseline.ofJson? b.toJson = some b := by
  have hmeasurements : Storable b.measurements := h
  refine bind_then (slots?_obj rfl (by decide)) ?_
  exact read_then rfl <| read_then rfl <| read_then (timestamp?_ofTimestamp b.createdAt) <|
    read_then (measurements_ofJson?_toJson hmeasurements) rfl

end Baselines

/-! ### Analyses -/

section Analyses

lemma regression_ofJson?_toJson {f : RegressionFinding Float} (h : Storable f) :
    RegressionFinding.ofJson? f.toJson = some f := by
  obtain ⟨hfinite, -⟩ := h
  simp only [floats, List.forall_mem_cons] at hfinite
  obtain ⟨hbaseline, hcurrent, hchange, hdegradation, hthreshold, -⟩ := hfinite
  refine bind_then (slots?_obj rfl (by decide)) ?_
  exact read_then (choice?_metricCategory f.category) <| read_then rfl <| read_then rfl <|
    read_then (choice?_metricKind f.kind) <| read_then (float?_ofFloat hbaseline) <|
    read_then (float?_ofFloat hcurrent) <| read_then (float?_ofFloat hchange) <|
    read_then (float?_ofFloat hdegradation) <| read_then (float?_ofFloat hthreshold) <|
    read_then (choice?_severity f.severity) rfl

lemma improvement_ofJson?_toJson {f : ImprovementFinding Float} (h : Storable f) :
    ImprovementFinding.ofJson? f.toJson = some f := by
  obtain ⟨hfinite, -⟩ := h
  simp only [floats, List.forall_mem_cons] at hfinite
  obtain ⟨hbaseline, hcurrent, hchange, -⟩ := hfinite
  refine bind_then (slots?_obj rfl (by decide)) ?_
  exact read_then (choice?_metricCategory f.category) <| read_then rfl <| read_then rfl <|
    read_then (choice?_metricKind f.kind) <| read_then (float?_ofFloat hbaseline) <|
    read_then (float?_ofFloat hcurrent) <| read_then (float?_ofFloat hchange) <|
    read_then (choice?_significance f.significance) rfl

lemma trend_ofJson?_toJson {t : Trend Float} (h : Storable t) :
    Trend.ofJson? t.toJson = some t := by
  obtain ⟨hfinite, hcounts⟩ := h
  simp only [floats, counts, List.forall_mem_cons] at hfinite hcounts
  refine bind_then (slots?_obj rfl (by decide)) ?_
  exact read_then rfl <| read_then (choice?_trendDirection t.direction) <|
    read_then (float?_ofFloat hfinite.1) <| read_then (float?_ofFloat hfinite.2.1) <|
    read_then (word?_nat hcounts.1) rfl

lemma bottleneck_ofJson?_toJson {b : Bottleneck} (h : Storable b) :
    Bottleneck.ofJson? b.toJson = some b := by
  obtain ⟨hfinite, -⟩ := h
  simp only [floats, List.forall_mem_cons] at hfinite
  refine bind_then (slots?_obj rfl (by decide)) ?_
  exact read_then (choice?_bottleneckKind b.kind) <| read_then rfl <|
    read_then (float?_ofFloat hfinite.1) <| read_then (float?_ofFloat hfinite.2.1) <|
    read_then (choice?_severity b.severity) <| read_then rfl rfl

lemma analysis_ofJson?_toJson {a : AnalysisResult} (h : Storable a) :
    AnalysisResult.ofJson? a.toJson = some a := by
  obtain ⟨hregressions, h⟩ := inRange_append.1 h
  obtain ⟨himprovements, h⟩ := inRange_append.1 h
  obtain ⟨htrends, h⟩ := inRange_append.1 h
  obtain ⟨hbottlenecks, hfinite, -⟩ := inRange_append.1 h
  have hscore : a.overallScore.isFinite = true := hfinite _ List.mem_cons_self
  have hregression := fun f hf => regression_ofJson?_toJson (storable_list (a := f) hregressions hf)
  have himprovement := fun f hf =>
    improvement_ofJson?_toJson (storable_list (a := f) himprovements hf)
  have htrend := fun t ht => trend_ofJson?_toJson (storable_list (a := t) htrends ht)
  have hbottleneck := fun b hb => bottleneck_ofJson?_toJson (storable_list (a := b) hbottlenecks hb)
  refine bind_then (slots?_obj rfl (by decide)) ?_
  exact read_then rfl <| read_then rfl <| read_then (timestamp?_ofTimestamp a.analyzedAt) <|
    read_then (list?_ofList hregression) <| read_then (list?_ofList himprovement) <|
    read_then (list?_ofList htrend) <| read_then (list?_ofList hbottleneck) <|
    read_then (float?_ofFloat hscore) rfl

end Analyses

/-! ### Texts -/

section Texts

@[simp] lemma plain_schedule (s : Schedule) : Plain s.toJson := by
  cases s <;> simp [Schedule.toJson]

@[simp] lemma plain_latency (s : LatencyStats Float) : Plain s.toJson := by
  simp [LatencyStats.toJson]

@[simp] lemma plain_throughput (s : ThroughputStats) : Plain s.toJson := by
  simp [ThroughputStats.toJson]

@[simp] lemma plain_loadAverage (l : LoadAverage) : Plain l.toJson := by
  simp [LoadAverage.toJson]

@[simp] lemma plain_resourceSample (s : ResourceSample) : Plain s.toJson := by
  simp [ResourceSample.toJson]

@[simp] lemma plain_memory (m : MemoryStats) : Plain m.toJson := by
  simp [MemoryStats.toJson]

@[simp] lemma plain_leakReport (r : LeakReport Float) : Plain r.toJson := by
  simp [LeakReport.toJson]

@[simp] lemma plain_tally (t : Tally) : Plain t.toJson := by
  rw [Tally.toJson, plain_obj, List.forall_mem_map]
  intro e _
  exact plain_nat e.2

@[simp] lemma plain_report (r : Report) : Plain r.toJson := by
  simp [Report.toJson]

@[simp] lemma plain_figure (f : Figure) : Plain f.toJson := plain_ofFloat f.value

@[simp] lemma plain_benchmark (b : BenchmarkFigures) : Plain b.toJson := by
  simp [BenchmarkFigures.toJson]

@[simp] lemma plain_loadFigures (l : LoadFigures) : Plain l.toJson := by
  simp [LoadFigures.toJson]

@[simp] lemma plain_system (s : SystemFigures) : Plain s.toJson := by
  simp [SystemFigures.toJson]

@[simp] lemma plain_measurements (m : Measurements) : Plain m.toJson := by
  simp [Measurements.toJson]

lemma plain_baseline (b : Baseline) : Plain b.toJson := by
  simp [Baseline.toJson]

@[simp] lemma plain_regression (f : RegressionFinding Float) : Plain f.toJson := by
  simp [RegressionFinding.toJson]

@[simp] lemma plain_improvement (f : ImprovementFinding Float) : Plain f.toJson := by
  simp [ImprovementFinding.toJson]

@[simp] lemma plain_trend (t : Trend Float) : Plain t.toJson := by
  simp [Trend.toJson]

@[simp] lemma plain_bottleneck (b : Bottleneck) : Plain b.toJson := by
  simp [Bottleneck.toJson]

lemma plain_analysis (a : AnalysisResult) : Plain a.toJson := by
  simp [AnalysisResult.toJson]

end Texts

/-- Every report, baseline and analysis whose floats are finite is read back as it was from the text
of its record. -/
theorem records_read_back :
    (∀ r : Report, Storable r → reread Report.toJson (Report.ofJson? 0) r = some r) ∧
    (∀ b : Baseline, Storable b → reread Baseline.toJson Baseline.ofJson? b = some b) ∧
    ∀ a : AnalysisResult, Storable a →
      reread AnalysisResult.toJson AnalysisResult.ofJson? a = some a := by
  refine ⟨fun r hr => ?_, fun b hb => ?_, fun a ha => ?_⟩
  · rw [reread_eq (plain_report r), report_ofJson?_toJson (by decide) hr]
  · rw [reread_eq (plain_baseline b), baseline_ofJson?_toJson hb]
  · rw [reread_eq (plain_analysis a), analysis_ofJson?_toJson ha]

/-- A report that ends in a leap second, with errors, samples and a leak. -/
def leapReport : Report where
  runId := ⟨0x0123456789abcdef0123456789abcdef⟩
  name := "peak \"hour\""
  schedule := .rate 12.5
  startedAt := .epoch
  finishedAt := { seconds := 1483228799, nanos := 1500000000 }
  elapsed := { nanos := 1333333333 }
  totalRequests := 3
  successfulRequests := 1
  failedRequests := 1
  timedOutRequests := 1
  abandonedRequests := 1
  skippedRequests := 18446744073709551615
  errorRate := 0.1
  latency :=
    { least := 0.1, greatest := 1e300, mean := -0.0, deviation := 5e-324, p50 := 1.5, p90 := 2.5,
      p95 := 3.0, p99 := 1e-7, outliers := 2, drift := -0.3 }
  throughput := { requestsPerSecond := 2.25, windowMillis := 1000, windows := 2, maxPerWindow := 3 }
  memory := { startBytes := 1, peakBytes := 18446744073709551615, endBytes := 2 }
  errors := Tally.ofTexts ["timeout", "reset\n", "timeout"]
  resourceSamples :=
    [{ timestamp := { seconds := -1, nanos := 5 }, cpuPercent := 99.9, memoryBytes := 4096,
       loadAverage := { one := 0.5, five := 0.25, fifteen := 0.125 } }]
  memoryLeak := some
    { initialMeanBytes := 4096.0, finalMeanBytes := 8192.5, growthBytes := 4096.5,
      suspected := true }

/-- A baseline with a benchmark and a host. -/
def hostBaseline : Baseline where
  name := "nightly"
  version := "1.0.0"
  createdAt := .epoch
  measurements :=
    { benchmarks := [{ name := "sort", averageTimeMillis := .float 0.3,
                       operationsPerSecond := .float 3333.3, memoryBytes := 64 }]
      systems := [{ name := "db", cpuPercent := .float 12.5, memoryBytes := 1024,
                    loadAverage := .float 0.7 }] }

/-- An analysis that found one of each. -/
def mixedAnalysis : AnalysisResult where
  baselineName := "nightly"
  baselineVersion := "1.0.0"
  analyzedAt := .epoch
  regressions :=
    [{ category := .loadTest, item := "login", metric := "p95", kind := .responseTime,
       baselineValue := 10.0, currentValue := 25.0, changePercent := 150.0,
       degradationPercent := 150.0, thresholdPercent := 10.0, severity := .critical }]
  improvements :=
    [{ category := .system, item := "db", metric := "cpu", kind := .cpu, baselineValue := 80.0,
       currentValue := 20.0, changePercent := -75.0, significance := .major }]
  trends :=
    [{ metric := "cpu", direction := .improving, slope := -0.2, confidence := 0.99, points := 5 }]
  bottlenecks :=
    [{ kind := .memory, source := "db", value := 97.5, limit := 90.0, severity := .low,
       recommendation := BottleneckKind.recommendation .memory }]
  overallScore := 55.5

theorem records_read_back_leap :
    Storable leapReport ∧ reread Report.toJson (Report.ofJson? 0) leapReport = some leapReport ∧
    Storable hostBaseline ∧
      reread Baseline.toJson Baseline.ofJson? hostBaseline = some hostBaseline ∧
    Storable mixedAnalysis ∧
      reread AnalysisResult.toJson AnalysisResult.ofJson? mixedAnalysis = some mixedAnalysis := by
  obtain ⟨hreports, hbaselines, hanalyses⟩ := records_read_back
  have hreport : Storable leapReport := by decide +kernel
  have hbaseline : Storable hostBaseline := by decide +kernel
  have hanalysis : Storable mixedAnalysis := by decide +kernel
  exact ⟨hreport, hreports _ hreport, hbaseline, hbaselines _ hbaseline, hanalysis,
    hanalyses _ hanalysis⟩

end LoadTest.Proofs
