import LoadTest.Proofs.PairedFigures
import LoadTest.Proofs.StoredBaselines
import Mathlib.Data.List.DropRight

/-!
# The series of an analyzer

An analyzer keeps, under the name of each baseline, a series for each figure that has been compared
with it. Whatever is done with an analyzer, such a series holds the figure of the baseline and then
what was compared with it since the baseline was stored or the history was cleared. Trends are
fitted to these series.
-/

namespace LoadTest.Proofs

/-- What can be done with an analyzer. -/
inductive Operation where
  | create (now : Timestamp) (name version : String) (measurements : Measurements)
  | remove (name : String)
  | analyze (now : Timestamp) (name : String) (current : Measurements)
  | clearHistory
  | clearBaselines

namespace Operation

/-- An analysis that fails leaves the analyzer as it is. -/
def apply (a : Analyzer) : Operation → Analyzer
  | .create now name version measurements => (a.createBaseline now name version measurements).2
  | .remove name => (a.removeBaseline name).2
  | .analyze now name current =>
    match a.analyze now name current with
    | .ok (_, a') => a'
    | .error _ => a
  | .clearHistory => a.clearHistory
  | .clearBaselines => a.clearBaselines

/-- The analyzer after some operations. -/
def run (settings : AnalyzerSettings) (ops : List Operation) : Analyzer :=
  ops.foldl apply { settings }

/-- Whether the series of a baseline start anew. -/
def restarts (name : String) : Operation → Bool
  | .create _ stored _ _ => stored = name
  | .clearHistory => true
  | _ => false

/-- The samples that an operation compares with a baseline. -/
def samples (name : String) (baseline : Measurements) : Operation → List (MetricSample Float)
  | .analyze _ against current => if against = name then baseline.samples current else []
  | _ => []

/-- The samples compared with a baseline since it was stored or the history was cleared. -/
def samplesSince (name : String) (baseline : Measurements) (ops : List Operation) :
    List (MetricSample Float) :=
  (ops.rtakeWhile fun op => !op.restarts name).flatMap (samples name baseline)

end Operation

/-- The values of a figure among some samples: that of the baseline, then the current ones. -/
def valuesOf (paired : List (MetricSample Float)) (s : MetricSample Float) : List Float :=
  s.baseline :: (paired.filter (SameFigure s)).map MetricSample.current

/-- A map holds the series of some samples, and no other. -/
structure HoldsSeries (baseline : Measurements) (paired : List (MetricSample Float))
    (m : SeriesMap) : Prop where
  names : ∀ name values, m.get? name = some values → ∃ s ∈ paired, s.seriesName = name
  values : ∀ s ∈ paired, figure? baseline s.category s.item s.metric = some s.baseline ∧
    m.get? s.seriesName = some (valuesOf paired s)

/-- Samples in order, each with the values of its figure when it is appended to `paired`. -/
def reached (paired : List (MetricSample Float)) :
    List (MetricSample Float) → List (MetricSample Float × List Float)
  | [] => []
  | s :: rest => (s, valuesOf (paired ++ [s]) s) :: reached (paired ++ [s]) rest

/-- The trend of a figure with some values. -/
def trendOf? (settings : AnalyzerSettings) (s : MetricSample Float) (values : List Float) :
    Option (Trend Float) :=
  Trend.ofSeries? s.seriesName values settings.trendWindow settings.slopeThreshold
    (!s.kind.higherIsBetter)

/-! ### One map of series -/

section Series

/-- The series of a name among some samples. -/
def seriesNamed? (paired : List (MetricSample Float)) (name : String) : Option (List Float) :=
  match paired.filter fun s => s.seriesName = name with
  | [] => none
  | s :: rest => some (s.baseline :: (s :: rest).map MetricSample.current)

variable {m : SeriesMap} {paired : List (MetricSample Float)} {s : MetricSample Float}

lemma seriesNamed?_append (name : String) :
    seriesNamed? (paired ++ [s]) name =
      if name = s.seriesName then
        some ((seriesNamed? paired name).getD [s.baseline] ++ [s.current])
      else seriesNamed? paired name := by
  unfold seriesNamed?
  rw [List.filter_append]
  by_cases hname : name = s.seriesName
  · rw [if_pos hname, List.filter_cons_of_pos (by simpa using hname.symm), List.filter_nil]
    cases paired.filter fun s => s.seriesName = name <;> simp
  · rw [if_neg hname, List.filter_cons_of_neg (by simpa using Ne.symm hname), List.filter_nil,
      List.append_nil]

lemma get?_extend (h : ∀ name, m.get? name = seriesNamed? paired name) (name : String) :
    (SeriesMap.extend m s).get? name = seriesNamed? (paired ++ [s]) name := by
  rw [SeriesMap.extend, get?_alter, seriesNamed?_append]
  by_cases hname : name = s.seriesName
  · rw [if_pos hname, if_pos hname, h, hname]
  · rw [if_neg hname, if_neg hname, h]

variable {baseline : Measurements}

/-- Samples of one name are samples of one figure, and begin with one value of the baseline. -/
lemma seriesNamed?_eq (hpaired : ∀ t ∈ paired, Paired baseline t) (hs : s ∈ paired) :
    seriesNamed? paired s.seriesName = some (valuesOf paired s) := by
  have hfilter : (paired.filter fun t => t.seriesName = s.seriesName) =
      paired.filter (SameFigure s) := by
    refine List.filter_congr fun t ht => ?_
    rw [decide_eq_decide, eq_comm]
    exact seriesName_eq_iff (hpaired s hs).plain (hpaired t ht).plain
  have hmem : s ∈ paired.filter (SameFigure s) := by
    rw [List.mem_filter]
    exact ⟨hs, decide_eq_true ⟨rfl, rfl, rfl⟩⟩
  unfold seriesNamed? valuesOf
  rw [hfilter]
  cases hcases : paired.filter (SameFigure s) with
  | nil =>
    rw [hcases] at hmem
    cases hmem
  | cons t rest =>
    have ht : t ∈ paired.filter (SameFigure s) := by
      rw [hcases]
      exact List.mem_cons_self
    obtain ⟨ht, hsame⟩ := List.mem_filter.1 ht
    obtain ⟨hcategory, hitem, hmetric⟩ : SameFigure s t := of_decide_eq_true hsame
    have hfigure := (hpaired s hs).figure
    rw [hcategory, hitem, hmetric, (hpaired t ht).figure] at hfigure
    rw [← Option.some.inj hfigure]

lemma holdsSeries_of_get? (h : ∀ name, m.get? name = seriesNamed? paired name)
    (hpaired : ∀ t ∈ paired, Paired baseline t) : HoldsSeries baseline paired m := by
  constructor
  · intro name values hvalues
    rw [h, seriesNamed?] at hvalues
    split at hvalues
    · cases hvalues
    · next s rest hfilter =>
      have hs : s ∈ paired.filter fun s => s.seriesName = name := by
        rw [hfilter]
        exact List.mem_cons_self
      obtain ⟨hs, hname⟩ := List.mem_filter.1 hs
      exact ⟨s, hs, of_decide_eq_true hname⟩
  · intro s hs
    exact ⟨(hpaired s hs).figure, by rw [h, seriesNamed?_eq hpaired hs]⟩

/-- Samples are appended to their series in order, and each one is judged by its series so far. -/
lemma extendAll_eq (settings : AnalyzerSettings) (samples : List (MetricSample Float))
    (h : ∀ name, m.get? name = seriesNamed? paired name)
    (hpaired : ∀ t ∈ paired ++ samples, Paired baseline t) :
    (∀ name, (SeriesMap.extendAll settings m samples).1.get? name =
      seriesNamed? (paired ++ samples) name) ∧
    (SeriesMap.extendAll settings m samples).2 =
      (reached paired samples).filterMap fun (s, values) => trendOf? settings s values := by
  induction samples generalizing m paired with
  | nil => exact ⟨by simpa [SeriesMap.extendAll] using h, rfl⟩
  | cons s rest ih =>
    rw [List.append_cons] at hpaired
    obtain ⟨hseries, htrends⟩ := ih (get?_extend h) hpaired
    have hvalues : (SeriesMap.extend m s).get? s.seriesName =
        some (valuesOf (paired ++ [s]) s) := by
      rw [get?_extend h]
      exact seriesNamed?_eq (fun t ht => hpaired t (List.mem_append_left _ ht)) (by simp)
    constructor
    · rw [List.append_cons]
      exact hseries
    · have htrend : SeriesMap.trend? (SeriesMap.extend m s) settings s =
          trendOf? settings s (valuesOf (paired ++ [s]) s) := by
        rw [SeriesMap.trend?, hvalues]
        rfl
      show (SeriesMap.trend? (SeriesMap.extend m s) settings s).toList ++
        (SeriesMap.extendAll settings (SeriesMap.extend m s) rest).2 = _
      rw [htrend, htrends, reached, List.filterMap_cons]
      dsimp only
      cases trendOf? settings s (valuesOf (paired ++ [s]) s) <;> rfl

end Series

/-! ### The series of every baseline -/

section Operations

open Operation

variable {settings : AnalyzerSettings} {ops : List Operation} {name : String}

lemma samplesSince_restart {op : Operation} (h : op.restarts name = true)
    (baseline : Measurements) : samplesSince name baseline (ops ++ [op]) = [] := by
  rw [samplesSince, List.rtakeWhile_concat, if_neg (by simp [h]), List.flatMap_nil]

lemma samplesSince_append {op : Operation} (h : op.restarts name = false)
    (baseline : Measurements) : samplesSince name baseline (ops ++ [op]) =
      samplesSince name baseline ops ++ op.samples name baseline := by
  rw [samplesSince, List.rtakeWhile_concat, if_pos (by simp [h]), List.flatMap_append,
    List.flatMap_singleton, samplesSince]

lemma paired_of_mem_samplesSince {baseline : Measurements} {s : MetricSample Float}
    (h : s ∈ samplesSince name baseline ops) : Paired baseline s := by
  obtain ⟨op, -, hs⟩ := List.mem_flatMap.1 h
  cases op with
  | analyze now against current =>
    rw [Operation.samples] at hs
    split at hs
    · exact paired_of_mem_samples hs
    · cases hs
  | _ => cases hs

/-- The series under a name are those of the baseline of that name. Without it there are none. -/
structure SeriesKept (a : Analyzer) (ops : List Operation) (name : String) : Prop where
  stored : a.baseline? name = none → a.series.get? name = none
  held : ∀ b, a.baseline? name = some b → ∀ series,
    ((a.series.get? name).getD .empty).get? series =
      seriesNamed? (samplesSince name b.measurements ops) series

namespace SeriesKept

variable {a a' : Analyzer}

lemma of_same {op : Operation} (h : SeriesKept a ops name)
    (hbaseline : a'.baseline? name = a.baseline? name)
    (hseries : a'.series.get? name = a.series.get? name) (hrestarts : op.restarts name = false)
    (hsamples : ∀ baseline, op.samples name baseline = []) : SeriesKept a' (ops ++ [op]) name := by
  constructor
  · rw [hbaseline, hseries]
    exact h.stored
  · intro b hb
    rw [hseries, samplesSince_append hrestarts, hsamples, List.append_nil]
    exact h.held b (hbaseline ▸ hb)

lemma of_restart {op : Operation} (hseries : a'.series.get? name = none)
    (hrestarts : op.restarts name = true) : SeriesKept a' (ops ++ [op]) name := by
  refine ⟨fun _ => hseries, fun b _ series => ?_⟩
  rw [hseries, samplesSince_restart hrestarts]
  rfl

lemma of_dropped (hbaseline : a'.baseline? name = none) (hseries : a'.series.get? name = none) :
    SeriesKept a' ops name := by
  refine ⟨fun _ => hseries, fun b hb => ?_⟩
  rw [hbaseline] at hb
  cases hb

end SeriesKept

section Analyses

variable {a a' : Analyzer} {now : Timestamp} {against : String} {current : Measurements}
  {result : AnalysisResult} {failure : Failure}

/-- What an analysis reports, by what it reads. -/
def analysisReport (settings : AnalyzerSettings) (now : Timestamp) (name version : String)
    (series : SeriesMap) (samples : List (MetricSample Float)) (current : Measurements) :
    AnalysisResult where
  baselineName := name
  baselineVersion := version
  analyzedAt := now
  regressions := Analyzer.regressions settings samples
  improvements := Analyzer.improvements settings samples
  trends := (SeriesMap.extendAll settings series samples).2
  bottlenecks := Bottleneck.detect current settings.bottlenecks
  overallScore := overallScore
    ((Analyzer.regressions settings samples).map RegressionFinding.severity)
    ((Analyzer.improvements settings samples).map ImprovementFinding.significance)

/-- An analysis reports on a baseline, and of the analyzer it changes the history and the series of
that baseline. -/
lemma analyze_eq_ok : a.analyze now against current = .ok (result, a') ↔
    ∃ b, a.baseline? against = some b ∧
      result = analysisReport a.settings now against b.version
        ((a.series.get? against).getD NameMap.empty) (b.measurements.samples current) current ∧
      a' = { a with
        history := a.history ++ [result]
        series := a.series.insert against (SeriesMap.extendAll a.settings
          ((a.series.get? against).getD NameMap.empty) (b.measurements.samples current)).1 } := by
  unfold Analyzer.baseline? Analyzer.analyze
  cases a.baselines.get? against with
  | none => simp
  | some b =>
    constructor
    · rintro ⟨⟩
      exact ⟨b, rfl, rfl, rfl⟩
    · rintro ⟨_, ⟨⟩, rfl, rfl⟩
      rfl

lemma analyze_eq_error : a.analyze now against current = .error failure ↔
    a.baseline? against = none ∧ failure = .baselineNotFound against := by
  unfold Analyzer.baseline? Analyzer.analyze
  cases a.baselines.get? against with
  | none => simp [eq_comm]
  | some b => simp

end Analyses

section Steps

variable {a : Analyzer}

lemma seriesKept_create (h : SeriesKept a ops name) (now : Timestamp) (stored version : String)
    (measurements : Measurements) :
    SeriesKept (apply a (.create now stored version measurements))
      (ops ++ [.create now stored version measurements]) name := by
  by_cases hname : name = stored
  · refine .of_restart ?_ (decide_eq_true hname.symm)
    exact (get?_erase ..).trans (if_pos hname)
  · refine h.of_same ?_ ?_ (decide_eq_false (Ne.symm hname)) fun _ => rfl
    · exact (get?_upsert ..).trans (if_neg hname)
    · exact (get?_erase ..).trans (if_neg hname)

lemma seriesKept_remove (h : SeriesKept a ops name) (removed : String) :
    SeriesKept (apply a (.remove removed)) (ops ++ [.remove removed]) name := by
  by_cases hname : name = removed
  · refine .of_dropped ?_ ?_
    · exact (get?_remove ..).trans (if_pos hname)
    · exact (get?_erase ..).trans (if_pos hname)
  · refine h.of_same ?_ ?_ rfl fun _ => rfl
    · exact (get?_remove ..).trans (if_neg hname)
    · exact (get?_erase ..).trans (if_neg hname)

/-- The series of a baseline and the samples of one more comparison. -/
lemma SeriesKept.extendAll {b : Baseline} (h : SeriesKept a ops name)
    (hb : a.baseline? name = some b) (current : Measurements) :
    (∀ series, (SeriesMap.extendAll a.settings ((a.series.get? name).getD NameMap.empty)
      (b.measurements.samples current)).1.get? series =
      seriesNamed? (samplesSince name b.measurements ops ++ b.measurements.samples current)
        series) ∧
    (SeriesMap.extendAll a.settings ((a.series.get? name).getD NameMap.empty)
      (b.measurements.samples current)).2 =
      (reached (samplesSince name b.measurements ops) (b.measurements.samples current)).filterMap
        fun (s, values) => trendOf? a.settings s values := by
  refine extendAll_eq a.settings _ (h.held b hb) fun t ht => (?_ : Paired b.measurements t)
  obtain ht | ht := List.mem_append.1 ht
  · exact paired_of_mem_samplesSince ht
  · exact paired_of_mem_samples ht

lemma seriesKept_analyze (h : SeriesKept a ops name) (now : Timestamp) (against : String)
    (current : Measurements) :
    SeriesKept (apply a (.analyze now against current)) (ops ++ [.analyze now against current])
      name := by
  by_cases hname : against = name
  · subst hname
    rw [apply]
    cases hanalyze : a.analyze now against current with
    | error failure =>
      -- An analysis fails only without a baseline, and then there are no series to speak of.
      obtain ⟨hnone, -⟩ := analyze_eq_error.1 hanalyze
      exact .of_dropped hnone (h.stored hnone)
    | ok pair =>
      obtain ⟨result, a'⟩ := pair
      obtain ⟨b, hb, -, rfl⟩ := analyze_eq_ok.1 hanalyze
      refine ⟨fun hnone => ?_, fun b₁ hb₁ series => ?_⟩
      · cases hb.symm.trans hnone
      · obtain rfl : b = b₁ := Option.some.inj (hb.symm.trans hb₁)
        dsimp only
        rw [get?_insert, if_pos rfl, samplesSince_append rfl, Operation.samples, if_pos rfl]
        exact (h.extendAll hb current).1 series
  · have hsamples : ∀ baseline,
        (Operation.analyze now against current).samples name baseline = [] :=
      fun _ => if_neg hname
    rw [apply]
    cases hanalyze : a.analyze now against current with
    | error failure => exact h.of_same rfl rfl rfl hsamples
    | ok pair =>
      obtain ⟨result, a'⟩ := pair
      obtain ⟨b, -, -, rfl⟩ := analyze_eq_ok.1 hanalyze
      exact h.of_same rfl ((get?_insert ..).trans (if_neg (Ne.symm hname))) rfl hsamples

lemma seriesKept_apply (h : ∀ name, SeriesKept a ops name) (op : Operation) (name : String) :
    SeriesKept (apply a op) (ops ++ [op]) name := by
  cases op with
  | create now stored version measurements => exact seriesKept_create (h name) ..
  | remove removed => exact seriesKept_remove (h name) removed
  | analyze now against current => exact seriesKept_analyze (h name) now against current
  | clearHistory => exact .of_restart rfl rfl
  | clearBaselines => exact .of_dropped rfl rfl

lemma apply_settings (a : Analyzer) (op : Operation) : (apply a op).settings = a.settings := by
  cases op with
  | analyze now against current =>
    rw [apply]
    cases hanalyze : a.analyze now against current with
    | error failure => rfl
    | ok pair =>
      obtain ⟨result, a'⟩ := pair
      obtain ⟨b, -, -, rfl⟩ := analyze_eq_ok.1 hanalyze
      rfl
  | _ => rfl

end Steps

lemma run_settings (settings : AnalyzerSettings) (ops : List Operation) :
    (run settings ops).settings = settings := by
  induction ops using List.reverseRecOn with
  | nil => rfl
  | append_singleton ops op ih =>
    rw [run, List.foldl_append]
    exact (apply_settings _ op).trans ih

lemma seriesKept_run (settings : AnalyzerSettings) (ops : List Operation) (name : String) :
    SeriesKept (run settings ops) ops name := by
  -- On the last operation, since `samplesSince` reads the history from its end.
  induction ops using List.reverseRecOn generalizing name with
  | nil => exact .of_dropped rfl rfl
  | append_singleton ops op ih =>
    rw [run, List.foldl_append]
    exact seriesKept_apply ih op name

end Operations

/-! ### Trends -/

/-- A trend is fitted to the most recent values, if there are enough of them. -/
structure FitsRecent (settings : AnalyzerSettings) (s : MetricSample Float) : Prop where
  enough : ∀ values, (trendOf? settings s values).isSome = true ↔ 3 ≤ values.length
  points : ∀ values trend, trendOf? settings s values = some trend →
    trend.points = min values.length (max settings.trendWindow 3)
  recent : ∀ older older' recent, max settings.trendWindow 3 ≤ recent.length →
    trendOf? settings s (older ++ recent) = trendOf? settings s (older' ++ recent)

lemma length_recent (values : List Float) (window : Nat) :
    (Trend.recent values window).length = min values.length (max window 3) := by
  rw [Trend.recent, List.length_drop, fewestTrendPoints]
  omega

lemma recent_append {window : Nat} {recent : List Float} (older : List Float)
    (h : max window 3 ≤ recent.length) :
    Trend.recent (older ++ recent) window = Trend.recent recent window := by
  rw [Trend.recent, Trend.recent, List.length_append, fewestTrendPoints, Nat.add_sub_assoc h,
    List.drop_length_add_append]

lemma fitsRecent (settings : AnalyzerSettings) (s : MetricSample Float) :
    FitsRecent settings s := by
  constructor
  · intro values
    have hlength := length_recent values settings.trendWindow
    rw [trendOf?, Trend.ofSeries?, hlength, fewestTrendPoints]
    dsimp only
    split
    · exact iff_of_false (by simp) (by omega)
    · exact iff_of_true rfl (by omega)
  · intro values trend htrend
    rw [trendOf?, Trend.ofSeries?] at htrend
    dsimp only at htrend
    split at htrend
    · cases htrend
    · cases htrend
      exact length_recent values settings.trendWindow
  · intro older older' recent hrecent
    rw [trendOf?, trendOf?, Trend.ofSeries?, Trend.ofSeries?, recent_append older hrecent,
      recent_append older' hrecent]

/-- The series of an analyzer. Whatever has been done with it, the series under a name are those of
the stored baseline of that name: each begins with the figure of the baseline and goes on with what
was compared with it since the baseline was stored or the history was cleared. No two figures share
a series. An analysis fits a trend to the series that it extends, from three points on, and only the
most recent of them count. -/
theorem series_follow_baselines (settings : AnalyzerSettings) (ops : List Operation) :
    (∀ name m, (Operation.run settings ops).series.get? name = some m →
      ∃ b, (Operation.run settings ops).baseline? name = some b) ∧
    (∀ name b, (Operation.run settings ops).baseline? name = some b →
      HoldsSeries b.measurements (Operation.samplesSince name b.measurements ops)
        (((Operation.run settings ops).series.get? name).getD NameMap.empty)) ∧
    (∀ (baseline current baseline' current' : Measurements) (s t : MetricSample Float),
      s ∈ baseline.samples current → t ∈ baseline'.samples current' →
      s.seriesName = t.seriesName → SameFigure s t) ∧
    (∀ now name current result a',
      (Operation.run settings ops).analyze now name current = .ok (result, a') →
      ∃ b, (Operation.run settings ops).baseline? name = some b ∧
        result.trends = (reached (Operation.samplesSince name b.measurements ops)
          (b.measurements.samples current)).filterMap
            fun (s, values) => trendOf? settings s values) ∧
    ∀ s, FitsRecent settings s := by
  have hkept := seriesKept_run settings ops
  refine ⟨fun name m hm => ?_, fun name b hb => ?_, fun _ _ _ _ s t hs ht => ?_,
    fun now name current result a' hanalyze => ?_, fitsRecent settings⟩
  · refine Option.ne_none_iff_exists'.1 fun hnone => ?_
    rw [(hkept name).stored hnone] at hm
    cases hm
  · exact holdsSeries_of_get? ((hkept name).held b hb) fun t => paired_of_mem_samplesSince
  · exact sameFigure_of_seriesName (paired_of_mem_samples hs).plain (paired_of_mem_samples ht).plain
  · obtain ⟨b, hb, hresult, -⟩ := analyze_eq_ok.1 hanalyze
    have htrends := ((hkept name).extendAll hb current).2
    rw [run_settings] at htrends hresult
    exact ⟨b, hb, (congrArg AnalysisResult.trends hresult).trans htrends⟩

/-- A host with a slash in its name, at some use of its processor. -/
def busyHost (cpuPercent : Float) : Measurements :=
  { systems :=
      [{ name := "eu/west", cpuPercent := .float cpuPercent, memoryBytes := 1
         loadAverage := .float 0.5 }] }

def busyHostOps : List Operation :=
  [.create .epoch "main" "1.0" (busyHost 10.0), .clearHistory,
   .analyze .epoch "main" (busyHost 20.0)]

theorem series_follow_baselines_busy_host :
    ∃ b, (Operation.run {} busyHostOps).baseline? "main" = some b ∧
      (((Operation.run {} busyHostOps).series.get? "main").getD NameMap.empty).get?
        "system/eu/west/cpu_percent" = some [10.0, 20.0] := by
  have hheld := (series_follow_baselines {} busyHostOps).2.1 "main" _ rfl
  have hvalues := hheld.values
    { category := .system, item := "eu/west", metric := "cpu_percent", kind := .cpu,
      baseline := 10.0, current := 20.0 } (.head _)
  exact ⟨_, rfl, hvalues.2⟩

end LoadTest.Proofs
