import LoadTest.Proofs.TrendSeries

/-!
# Findings

An analysis pairs every current item with the first item of its name in the same part of the baseline
and judges each of their figures. What it reports is a stable sort of what it found: the most severe
regressions first, the most significant improvements first, and otherwise in the order of the items.
-/

namespace LoadTest.Proofs

/-! ### What is compared -/

/-- A figure of the items in one part of some measurements. -/
structure ItemFigure (ι : Type) where
  metric : String
  kind : MetricKind
  value : ι → Figure

/-- The items in one part of some measurements. -/
structure ItemKind (ι : Type) where
  category : MetricCategory
  name : ι → String
  figures : List (ItemFigure ι)

def benchmarkItems : ItemKind BenchmarkFigures where
  category := .benchmark
  name := BenchmarkFigures.name
  figures :=
    [⟨"average_time_ms", .responseTime, BenchmarkFigures.averageTimeMillis⟩,
     ⟨"operations_per_second", .throughput, BenchmarkFigures.operationsPerSecond⟩,
     ⟨"memory_bytes", .memory, fun b => .float (Float.ofNat b.memoryBytes.toNat)⟩]

def loadTestItems : ItemKind LoadFigures where
  category := .loadTest
  name := LoadFigures.name
  figures :=
    [⟨"throughput_rps", .throughput, LoadFigures.throughput⟩,
     ⟨"average_response_time_ms", .responseTime, LoadFigures.averageResponseMillis⟩,
     ⟨"p95_response_time_ms", .responseTime, LoadFigures.p95ResponseMillis⟩,
     ⟨"p99_response_time_ms", .responseTime, LoadFigures.p99ResponseMillis⟩,
     ⟨"error_rate", .errorRate, LoadFigures.errorRate⟩,
     ⟨"peak_memory_bytes", .memory, fun l => .float (Float.ofNat l.peakMemoryBytes.toNat)⟩]

def systemItems : ItemKind SystemFigures where
  category := .system
  name := SystemFigures.name
  figures :=
    [⟨"cpu_percent", .cpu, SystemFigures.cpuPercent⟩,
     ⟨"memory_bytes", .memory, fun s => .float (Float.ofNat s.memoryBytes.toNat)⟩,
     ⟨"load_average", .cpu, SystemFigures.loadAverage⟩]

namespace ItemKind

variable {ι : Type}

/-- The figures of an item now, each with that of an item before. -/
def pair (k : ItemKind ι) (before now : ι) : List (MetricSample Float) :=
  k.figures.map fun f =>
    { category := k.category, item := k.name now, metric := f.metric, kind := f.kind,
      baseline := (f.value before).value, current := (f.value now).value
      minus := (f.value now).minus }

/-- The samples of some current items in their order. An item is paired with the first one of its
name in the baseline, and left out where there is none. -/
inductive Compared (k : ItemKind ι) (baseline : List ι) : List ι → List (MetricSample Float) → Prop
  | nil : Compared k baseline [] []
  | paired {now before : ι} {earlier later rest : List ι} {samples : List (MetricSample Float)}
      (hsplit : baseline = earlier ++ before :: later) (hname : k.name before = k.name now)
      (hfirst : ∀ b ∈ earlier, k.name b ≠ k.name now) (hrest : Compared k baseline rest samples) :
      Compared k baseline (now :: rest) (k.pair before now ++ samples)
  | unknown {now : ι} {rest : List ι} {samples : List (MetricSample Float)}
      (hnone : ∀ b ∈ baseline, k.name b ≠ k.name now) (hrest : Compared k baseline rest samples) :
      Compared k baseline (now :: rest) samples

lemma compared_flatMap (k : ItemKind ι) {baseline : List ι} (items : List ι)
    {samples : ι → List (MetricSample Float)}
    (h : ∀ now, samples now =
      (baseline.find? fun b => k.name b = k.name now).elim [] fun before => k.pair before now) :
    k.Compared baseline items (items.flatMap samples) := by
  induction items with
  | nil => exact .nil
  | cons now rest ih =>
    rw [List.flatMap_cons, h]
    cases hfind : baseline.find? fun b => k.name b = k.name now with
    | none =>
      have hnone := List.find?_eq_none.1 hfind
      apply Compared.unknown _ ih
      intro b hb
      simpa using hnone b hb
    | some before =>
      obtain ⟨hname, earlier, later, hsplit, hfirst⟩ := List.find?_eq_some_iff_append.1 hfind
      apply Compared.paired hsplit _ _ ih
      · simpa using hname
      · intro b hb
        simpa using hfirst b hb

/-- There is no choice in what is compared. -/
lemma Compared.unique {k : ItemKind ι} {baseline items : List ι}
    {samples samples' : List (MetricSample Float)} (h : k.Compared baseline items samples)
    (h' : k.Compared baseline items samples') : samples = samples' := by
  have hfound : ∀ {now before : ι} {earlier later : List ι}, baseline = earlier ++ before :: later →
      k.name before = k.name now → (∀ b ∈ earlier, k.name b ≠ k.name now) →
      baseline.find? (fun b => k.name b = k.name now) = some before := by
    intro now before earlier later hsplit hname hfirst
    apply List.find?_eq_some_iff_append.2
    exact ⟨by simpa using hname, earlier, later, hsplit, fun b hb => by simpa using hfirst b hb⟩
  induction h generalizing samples' with
  | nil => cases h'; rfl
  | paired hsplit hname hfirst _ ih =>
    cases h' with
    | paired hsplit' hname' hfirst' hrest' =>
      have hsame := (hfound hsplit hname hfirst).symm.trans (hfound hsplit' hname' hfirst')
      rw [Option.some.inj hsame, ih hrest']
    | unknown hnone' _ => exact absurd hname (hnone' _ (by simp [hsplit]))
  | unknown hnone _ ih =>
    cases h' with
    | paired hsplit' hname' _ _ => exact absurd hname' (hnone _ (by simp [hsplit']))
    | unknown _ hrest' => exact ih hrest'

end ItemKind

/-! ### What becomes of a sample -/

/-- A finding names the figure of a sample and gives its two values. -/
def Concerns (s : MetricSample Float) : Comparison Float → Prop
  | .regression f => f.category = s.category ∧ f.item = s.item ∧ f.metric = s.metric ∧
      f.kind = s.kind ∧ f.baselineValue = s.baseline ∧ f.currentValue = s.current
  | .improvement f => f.category = s.category ∧ f.item = s.item ∧ f.metric = s.metric ∧
      f.kind = s.kind ∧ f.baselineValue = s.baseline ∧ f.currentValue = s.current
  | .unchanged => True

/-- How an analyzer with some settings judges a sample. -/
def judge (settings : AnalyzerSettings) (s : MetricSample Float) : Comparison Float :=
  s.compare settings.thresholds settings.improvementThreshold

/-- Samples with the regressions, the improvements and the unchanged samples among them, each in the
order of the samples. -/
inductive Judged (settings : AnalyzerSettings) : List (MetricSample Float) →
    List (RegressionFinding Float) → List (ImprovementFinding Float) →
    List (MetricSample Float) → Prop
  | nil : Judged settings [] [] [] []
  | regression {s f rest worse better same} (hs : judge settings s = .regression f)
      (hrest : Judged settings rest worse better same) :
      Judged settings (s :: rest) (f :: worse) better same
  | improvement {s f rest worse better same} (hs : judge settings s = .improvement f)
      (hrest : Judged settings rest worse better same) :
      Judged settings (s :: rest) worse (f :: better) same
  | unchanged {s rest worse better same} (hs : judge settings s = .unchanged)
      (hrest : Judged settings rest worse better same) :
      Judged settings (s :: rest) worse better (s :: same)

lemma concerns_judge (settings : AnalyzerSettings) (s : MetricSample Float) :
    Concerns s (judge settings s) := by
  unfold judge MetricSample.compare
  dsimp only
  split
  · exact ⟨rfl, rfl, rfl, rfl, rfl, rfl⟩
  · split
    · exact ⟨rfl, rfl, rfl, rfl, rfl, rfl⟩
    · trivial

/-- There is no choice in what becomes of the samples. -/
lemma Judged.unique {settings : AnalyzerSettings} {samples same same' : List (MetricSample Float)}
    {worse worse' : List (RegressionFinding Float)} {better better' : List (ImprovementFinding Float)}
    (h : Judged settings samples worse better same)
    (h' : Judged settings samples worse' better' same') :
    worse = worse' ∧ better = better' ∧ same = same' := by
  induction h generalizing worse' better' same' with
  | nil => cases h'; exact ⟨rfl, rfl, rfl⟩
  | regression hs _ ih =>
    cases h' with
    | regression hs' hrest' =>
      cases hs.symm.trans hs'
      obtain ⟨rfl, rfl, rfl⟩ := ih hrest'
      exact ⟨rfl, rfl, rfl⟩
    | improvement hs' _ | unchanged hs' _ => cases hs.symm.trans hs'
  | improvement hs _ ih =>
    cases h' with
    | improvement hs' hrest' =>
      cases hs.symm.trans hs'
      obtain ⟨rfl, rfl, rfl⟩ := ih hrest'
      exact ⟨rfl, rfl, rfl⟩
    | regression hs' _ | unchanged hs' _ => cases hs.symm.trans hs'
  | unchanged hs _ ih =>
    cases h' with
    | unchanged hs' hrest' =>
      obtain ⟨rfl, rfl, rfl⟩ := ih hrest'
      exact ⟨rfl, rfl, rfl⟩
    | regression hs' _ | improvement hs' _ => cases hs.symm.trans hs'

/-! ### In which order findings are reported -/

section Order

variable {α : Type} {rank : α → ℕ} {l sorted : List α}

/-- A list sorted from the highest rank to the lowest, with the old order among equals. -/
structure IsStableSort (rank : α → ℕ) (l sorted : List α) : Prop where
  perm : sorted.Perm l
  descends : sorted.Pairwise fun a b => rank b ≤ rank a
  stable : ∀ r, sorted.filter (fun a => rank a = r) = l.filter fun a => rank a = r

lemma isStableSort_mergeSort (rank : α → ℕ) (l : List α) :
    IsStableSort rank l (l.mergeSort fun a b => rank b ≤ rank a) := by
  have htrans : ∀ a b c, decide (rank b ≤ rank a) = true → decide (rank c ≤ rank b) = true →
      decide (rank c ≤ rank a) = true := by
    intro a b c hab hbc
    exact decide_eq_true (Nat.le_trans (of_decide_eq_true hbc) (of_decide_eq_true hab))
  have htotal : ∀ a b, (decide (rank b ≤ rank a) || decide (rank a ≤ rank b)) = true := by
    intro a b
    rw [Bool.or_eq_true]
    exact (Nat.le_total (rank b) (rank a)).imp decide_eq_true decide_eq_true
  have hperm := List.mergeSort_perm l fun a b => rank b ≤ rank a
  constructor
  case perm => exact hperm
  case descends =>
    apply (List.pairwise_mergeSort htrans htotal l).imp
    intro a b
    exact of_decide_eq_true
  case stable =>
    intro r
    -- What has one rank is sorted as it stands, so that its order survives.
    have hequal : (l.filter fun a => rank a = r).Pairwise fun a b => decide (rank b ≤ rank a) = true := by
      apply List.pairwise_of_forall_mem_list
      intro a ha b hb
      have ha : rank a = r := by simpa using (List.mem_filter.1 ha).2
      have hb : rank b = r := by simpa using (List.mem_filter.1 hb).2
      rw [ha, hb]
      exact decide_eq_true (Nat.le_refl r)
    have hsublist := (List.sublist_mergeSort htrans htotal hequal List.filter_sublist).filter
      fun a => rank a = r
    rw [List.filter_filter] at hsublist
    simp only [Bool.and_self] at hsublist
    exact (hsublist.eq_of_length (hperm.filter _).length_eq.symm).symm

lemma IsStableSort.swapped {a b : α} (h : IsStableSort rank [a, b] sorted)
    (hlt : rank a < rank b) : sorted = [b, a] := by
  have hpair : [b, a].Pairwise fun x y => rank y ≤ rank x := by simpa using hlt.le
  apply List.Perm.eq_of_pairwise _ h.descends hpair (h.perm.trans (.swap b a []))
  intro x y hx hy hyx hxy
  have hx := h.perm.mem_iff.1 hx
  simp only [List.mem_cons, List.not_mem_nil, or_false] at hx hy
  obtain rfl | rfl := hx <;> obtain rfl | rfl := hy
  all_goals first | rfl | omega

lemma mem_iff_of_filter_rank {l l' : List α}
    (h : ∀ r, l.filter (fun a => rank a = r) = l'.filter fun a => rank a = r) (a : α) :
    a ∈ l ↔ a ∈ l' := by
  have hrank := congrArg (a ∈ ·) (h (rank a))
  simpa using hrank

/-- A list sorted by rank is known by what it holds of each rank. -/
lemma eq_of_filter_rank {l l' : List α} (h : l.Pairwise fun a b => rank b ≤ rank a)
    (h' : l'.Pairwise fun a b => rank b ≤ rank a)
    (hranks : ∀ r, l.filter (fun a => rank a = r) = l'.filter fun a => rank a = r) : l = l' := by
  have hmem := mem_iff_of_filter_rank hranks
  induction l generalizing l' with
  | nil =>
    apply Eq.symm
    apply List.eq_nil_iff_forall_not_mem.2
    intro a ha
    exact List.not_mem_nil ((hmem a).2 ha)
  | cons a rest ih =>
    cases l' with
    | nil => exact absurd ((hmem a).1 List.mem_cons_self) List.not_mem_nil
    | cons b rest' =>
      obtain ⟨hbelow, hrest⟩ := List.pairwise_cons.1 h
      obtain ⟨hbelow', hrest'⟩ := List.pairwise_cons.1 h'
      have hle : rank a ≤ rank b := by
        obtain rfl | ha := List.mem_cons.1 ((hmem a).1 List.mem_cons_self)
        · exact le_rfl
        · exact hbelow' a ha
      have hge : rank b ≤ rank a := by
        obtain rfl | hb := List.mem_cons.1 ((hmem b).2 List.mem_cons_self)
        · exact le_rfl
        · exact hbelow b hb
      -- Both heads have the highest rank, and each is the first of that rank.
      have hheads := hranks (rank a)
      rw [List.filter_cons_of_pos (by simp),
        List.filter_cons_of_pos (by simpa using le_antisymm hge hle)] at hheads
      obtain ⟨rfl, -⟩ := List.cons.inj hheads
      have htails : ∀ r, rest.filter (fun c => rank c = r) = rest'.filter fun c => rank c = r := by
        intro r
        have hr := hranks r
        by_cases har : rank a = r
        · rw [List.filter_cons_of_pos (by simpa using har),
            List.filter_cons_of_pos (by simpa using har)] at hr
          exact (List.cons.inj hr).2
        · rwa [List.filter_cons_of_neg (by simpa using har),
            List.filter_cons_of_neg (by simpa using har)] at hr
      rw [ih hrest hrest' htails (mem_iff_of_filter_rank htails)]

lemma IsStableSort.unique {sorted' : List α} (h : IsStableSort rank l sorted)
    (h' : IsStableSort rank l sorted') : sorted = sorted' := by
  apply eq_of_filter_rank h.descends h'.descends
  intro r
  rw [h.stable, h'.stable]

/-- From low over medium and high to critical. -/
def severityOrder (s : Severity) : ℕ := [Severity.low, .medium, .high, .critical].idxOf s

/-- From minor over moderate and major to exceptional. -/
def significanceOrder (s : Significance) : ℕ :=
  [Significance.minor, .moderate, .major, .exceptional].idxOf s

lemma severity_rank_eq (s : Severity) : s.rank = severityOrder s := by cases s <;> rfl

lemma significance_rank_eq (s : Significance) : s.rank = significanceOrder s := by
  cases s <;> rfl

lemma severity_rank_injective {s t : Severity} (h : s.rank = t.rank) : s = t := by
  cases s <;> cases t <;> first | rfl | cases h

/-- Among regressions in order none is worse than the first. -/
lemma worstSeverity?_eq {r : AnalysisResult}
    (h : r.regressions.Pairwise fun a b => severityOrder b.severity ≤ severityOrder a.severity) :
    r.worstSeverity? = r.regressions.head?.map RegressionFinding.severity := by
  unfold AnalysisResult.worstSeverity?
  simp only [← severity_rank_eq] at h
  cases hall : r.regressions with
  | nil => rfl
  | cons first rest =>
    rw [hall] at h
    have hbelow := (List.pairwise_cons.1 h).1
    rw [List.map_cons, List.foldl_cons]
    clear h hall
    induction rest with
    | nil => rfl
    | cons f rest ih =>
      rw [List.map_cons, List.foldl_cons]
      dsimp only
      have hstep : (if first.severity.rank ≤ f.severity.rank then some f.severity
          else some first.severity) = some first.severity := by
        have hle := hbelow f List.mem_cons_self
        split
        · next hge => rw [severity_rank_injective (Nat.le_antisymm hle hge)]
        · rfl
      rw [hstep]
      exact ih fun g hg => hbelow g (List.mem_cons_of_mem _ hg)

end Order

/-- Every sample is a regression, an improvement or unchanged. -/
lemma exists_unchanged (settings : AnalyzerSettings) (samples : List (MetricSample Float)) :
    ∃ same, Judged settings samples
      (samples.filterMap fun s =>
        match s.compare settings.thresholds settings.improvementThreshold with
        | .regression finding => some finding
        | _ => none)
      (samples.filterMap fun s =>
        match s.compare settings.thresholds settings.improvementThreshold with
        | .improvement finding => some finding
        | _ => none) same := by
  induction samples with
  | nil => exact ⟨[], .nil⟩
  | cons s rest ih =>
    obtain ⟨same, ih⟩ := ih
    rw [List.filterMap_cons, List.filterMap_cons]
    cases hs : s.compare settings.thresholds settings.improvementThreshold with
    | regression f => exact ⟨same, .regression hs ih⟩
    | improvement f => exact ⟨same, .improvement hs ih⟩
    | unchanged => exact ⟨s :: same, .unchanged hs ih⟩

/-- An analysis reports all regressions and all improvements, and in order. -/
lemma exists_judged (settings : AnalyzerSettings) (samples : List (MetricSample Float)) :
    ∃ worse better same, Judged settings samples worse better same ∧
      IsStableSort (fun f => severityOrder f.severity) worse
        (Analyzer.regressions settings samples) ∧
      IsStableSort (fun f => significanceOrder f.significance) better
        (Analyzer.improvements settings samples) := by
  obtain ⟨same, hjudged⟩ := exists_unchanged settings samples
  refine ⟨_, _, same, hjudged, ?_, ?_⟩
  · simp only [Analyzer.regressions, severity_rank_eq]
    exact isStableSort_mergeSort _ _
  · simp only [Analyzer.improvements, significance_rank_eq]
    exact isStableSort_mergeSort _ _

/-- The samples of an analysis are those of benchmarks, load tests and hosts, one after the other. -/
lemma exists_compared (baseline current : Measurements) : ∃ benchmarks loadTests systems,
    benchmarkItems.Compared baseline.benchmarks current.benchmarks benchmarks ∧
    loadTestItems.Compared baseline.loadTests current.loadTests loadTests ∧
    systemItems.Compared baseline.systems current.systems systems ∧
    baseline.samples current = benchmarks ++ loadTests ++ systems := by
  refine ⟨_, _, _, benchmarkItems.compared_flatMap current.benchmarks ?_,
    loadTestItems.compared_flatMap current.loadTests ?_,
    systemItems.compared_flatMap current.systems ?_, rfl⟩
  · intro now
    change _ = ((baseline.benchmarks.find? fun b => b.name = now.name).elim [] _)
    cases baseline.benchmarks.find? fun b => b.name = now.name <;> rfl
  · intro now
    change _ = ((baseline.loadTests.find? fun l => l.name = now.name).elim [] _)
    cases baseline.loadTests.find? fun l => l.name = now.name <;> rfl
  · intro now
    change _ = ((baseline.systems.find? fun s => s.name = now.name).elim [] _)
    cases baseline.systems.find? fun s => s.name = now.name <;> rfl

/-- The findings of an analysis. Each current item is compared by its figures with the first item of
its name in the same part of the baseline, and nothing else is; each sample is a regression, an
improvement or neither, as it is judged; and what is reported is in order. -/
theorem findings_exact (a : Analyzer) (now : Timestamp) (name : String) (baseline : Baseline)
    (current : Measurements) (h : a.baseline? name = some baseline) :
    ∃ result a', a.analyze now name current = .ok (result, a') ∧
    ∃ benchmarks loadTests systems worse better same,
      benchmarkItems.Compared baseline.measurements.benchmarks current.benchmarks benchmarks ∧
      loadTestItems.Compared baseline.measurements.loadTests current.loadTests loadTests ∧
      systemItems.Compared baseline.measurements.systems current.systems systems ∧
      Judged a.settings (benchmarks ++ loadTests ++ systems) worse better same ∧
      (∀ s ∈ benchmarks ++ loadTests ++ systems, Concerns s (judge a.settings s)) ∧
      IsStableSort (fun f => severityOrder f.severity) worse result.regressions ∧
      IsStableSort (fun f => significanceOrder f.significance) better result.improvements ∧
      result.worstSeverity? = result.regressions.head?.map RegressionFinding.severity := by
  obtain ⟨benchmarks, loadTests, systems, hbenchmarks, hloadTests, hsystems, hsamples⟩ :=
    exists_compared baseline.measurements current
  obtain ⟨worse, better, same, hjudged, hworse, hbetter⟩ :=
    exists_judged a.settings (baseline.measurements.samples current)
  rw [hsamples] at hjudged
  exact ⟨_, _, analyze_eq_ok.2 ⟨baseline, h, rfl, rfl⟩, benchmarks, loadTests, systems, worse, better,
    same, hbenchmarks, hloadTests, hsystems, hjudged, fun s _ => concerns_judge a.settings s, hworse,
    hbetter, worstSeverity?_eq hworse.descends⟩

/-- Hosts of a baseline, of which one is held twice. -/
def twinHosts : Measurements :=
  { systems :=
      [{ name := "eu", cpuPercent := .float 10.0, memoryBytes := 1, loadAverage := .float 0.5 },
       { name := "eu", cpuPercent := .float 90.0, memoryBytes := 1, loadAverage := .float 9.0 },
       { name := "ap", cpuPercent := .float 80.0, memoryBytes := 1, loadAverage := .float 4.0 }] }

/-- The twin under more load and the other host under less, after one that the baseline does not
hold. -/
def loadedHosts : Measurements :=
  { systems :=
      [{ name := "us", cpuPercent := .float 99.0, memoryBytes := 1, loadAverage := .float 0.5 },
       { name := "eu", cpuPercent := .float 12.5, memoryBytes := 1, loadAverage := .float 1.0 },
       { name := "ap", cpuPercent := .float 70.0, memoryBytes := 1, loadAverage := .float 1.0 }] }

def twinAnalyzer : Analyzer := (({} : Analyzer).createBaseline .epoch "main" "1.0" twinHosts).2

theorem findings_exact_twins :
    ∃ baseline, twinAnalyzer.baseline? "main" = some baseline ∧
    ∃ result a', twinAnalyzer.analyze .epoch "main" loadedHosts = .ok (result, a') ∧
      result.regressions.map (fun f => (f.item, f.metric, f.severity)) =
        [("eu", "load_average", .critical), ("eu", "cpu_percent", .low)] ∧
      result.improvements.map (fun f => (f.item, f.metric, f.significance)) =
        [("ap", "load_average", .exceptional), ("ap", "cpu_percent", .moderate)] ∧
      result.worstSeverity? = some .critical := by
  obtain ⟨result, a', hanalyze, benchmarks, loadTests, systems, worse, better, same, hbenchmarks,
      hloadTests, hsystems, hjudged, -, hworse, hbetter, hworst⟩ :=
    findings_exact twinAnalyzer .epoch "main" _ loadedHosts rfl
  cases hbenchmarks
  cases hloadTests
  have hlast : twinHosts.systems = twinHosts.systems.take 2 ++
      [{ name := "ap", cpuPercent := .float 80.0, memoryBytes := 1, loadAverage := .float 4.0 }] :=
    rfl
  obtain rfl := hsystems.unique (.unknown (by simp [twinHosts, systemItems])
    (.paired (List.nil_append _).symm rfl (by simp)
      (.paired hlast rfl (by simp [twinHosts, systemItems]) .nil)))
  obtain ⟨rfl, rfl, rfl⟩ := hjudged.unique (.regression rfl (.unchanged rfl (.regression rfl
    (.improvement rfl (.unchanged rfl (.improvement rfl .nil))))))
  have hworse := hworse.swapped (by decide +kernel)
  have hbetter := hbetter.swapped (by decide +kernel)
  rw [hworse] at hworst
  exact ⟨_, rfl, result, a', hanalyze, congrArg (List.map _) hworse, congrArg (List.map _) hbetter,
    hworst⟩

end LoadTest.Proofs
