import LoadTest.Proofs.AnalysisHistory
import LoadTest.Proofs.Findings
import LoadTest.Proofs.ReportOrder
import Mathlib.Data.List.Find
import Mathlib.Data.List.Nodup

/-!
# The order of items

Items are told apart by their names. Where no name is repeated, the order of the items in a baseline
cannot be told from any answer of an analyzer, and the order of current items decides only the order
of what is reported. Series are looked up by name as well, so that neither order is left in them.
-/

namespace LoadTest.Proofs

/-- No name stands for two items in the same part of some measurements. -/
structure UniqueNames (m : Measurements) : Prop where
  benchmarks : (m.benchmarks.map BenchmarkFigures.name).Nodup
  loadTests : (m.loadTests.map LoadFigures.name).Nodup
  systems : (m.systems.map SystemFigures.name).Nodup

/-- The same items in another order. -/
structure Rearranged (m m' : Measurements) : Prop where
  benchmarks : m.benchmarks.Perm m'.benchmarks
  loadTests : m.loadTests.Perm m'.loadTests
  systems : m.systems.Perm m'.systems

/-- The same findings in another order, and with the same level at every place. -/
structure SameFindings (r r' : AnalysisResult) : Prop where
  name : r.baselineName = r'.baselineName
  version : r.baselineVersion = r'.baselineVersion
  regressions : r.regressions.Perm r'.regressions
  improvements : r.improvements.Perm r'.improvements
  trends : r.trends.Perm r'.trends
  bottlenecks : r.bottlenecks.Perm r'.bottlenecks
  severities : r.regressions.map RegressionFinding.severity =
    r'.regressions.map RegressionFinding.severity
  significances : r.improvements.map ImprovementFinding.significance =
    r'.improvements.map ImprovementFinding.significance
  worst : r.worstSeverity? = r'.worstSeverity?
  score : r.overallScore = r'.overallScore

/-! ### Items under their names -/

section Samples

variable {m m' : Measurements}

lemma find?_name_of_perm {ι : Type} {name : ι → String} {l l' : List ι} (hperm : l.Perm l')
    (hunique : (l.map name).Nodup) (key : String) :
    (l.find? fun x => name x = key) = l'.find? fun x => name x = key := by
  apply List.find?_eq_find?_of_perm hperm
  rintro x ⟨hx, hxkey⟩ y ⟨hy, hykey⟩
  apply List.inj_on_of_nodup_map hunique hx hy
  rw [of_decide_eq_true hxkey, of_decide_eq_true hykey]

/-- A rearranged baseline is paired with current items as before. -/
lemma samples_rearranged_baseline (hunique : UniqueNames m) (h : Rearranged m m') :
    m.samples = m'.samples := by
  funext current
  unfold Measurements.samples
  simp only [find?_name_of_perm h.benchmarks hunique.benchmarks,
    find?_name_of_perm h.loadTests hunique.loadTests, find?_name_of_perm h.systems hunique.systems]

lemma samples_perm (baseline : Measurements) (h : Rearranged m m') :
    (baseline.samples m).Perm (baseline.samples m') :=
  ((h.benchmarks.flatMap_right _).append (h.loadTests.flatMap_right _)).append
    (h.systems.flatMap_right _)

/-- The figures of a pair are told apart by their metrics. -/
lemma pairwise_pair {ι : Type} {k : ItemKind ι} (hmetrics : (k.figures.map ItemFigure.metric).Nodup)
    (before now : ι) : (k.pair before now).Pairwise fun s t => ¬SameFigure s t := by
  unfold ItemKind.pair
  rw [List.pairwise_map]
  refine (List.pairwise_map.1 hmetrics).imp ?_
  rintro f g hne ⟨-, -, hmetric⟩
  exact hne hmetric

/-- What is compared comes from the current items, and no figure of them is compared twice. -/
lemma ItemKind.Compared.pairwise {ι : Type} {k : ItemKind ι} {baseline items : List ι}
    {samples : List (MetricSample Float)} (hmetrics : (k.figures.map ItemFigure.metric).Nodup)
    (h : k.Compared baseline items samples) (hunique : (items.map k.name).Nodup) :
    (∀ s ∈ samples, s.category = k.category ∧ s.item ∈ items.map k.name) ∧
      samples.Pairwise fun s t => ¬SameFigure s t := by
  induction h with
  | nil => simp
  | @paired now before _ _ rest samples _ _ _ _ ih =>
    rw [List.map_cons, List.nodup_cons] at hunique
    obtain ⟨hnow, hunique⟩ := hunique
    obtain ⟨hfrom, hapart⟩ := ih hunique
    have hpair : ∀ s ∈ k.pair before now, s.category = k.category ∧ s.item = k.name now := by
      intro s hs
      obtain ⟨f, -, rfl⟩ := List.mem_map.1 hs
      exact ⟨rfl, rfl⟩
    refine ⟨?_, List.pairwise_append.2 ⟨pairwise_pair hmetrics before now, hapart, ?_⟩⟩
    · intro s hs
      obtain hs | hs := List.mem_append.1 hs
      · obtain ⟨hcategory, hitem⟩ := hpair s hs
        exact ⟨hcategory, hitem ▸ List.mem_cons_self⟩
      · obtain ⟨hcategory, hitem⟩ := hfrom s hs
        exact ⟨hcategory, List.mem_cons_of_mem _ hitem⟩
    · rintro s hs t ht ⟨-, hitem, -⟩
      rw [(hpair s hs).2] at hitem
      exact hnow (hitem ▸ (hfrom t ht).2)
  | unknown _ _ ih =>
    rw [List.map_cons, List.nodup_cons] at hunique
    obtain ⟨hfrom, hapart⟩ := ih hunique.2
    refine ⟨?_, hapart⟩
    intro s hs
    exact ⟨(hfrom s hs).1, List.mem_cons_of_mem _ (hfrom s hs).2⟩

/-- Every sample of current items with names of their own has a series of its own. -/
lemma nodup_seriesNames (baseline : Measurements) (hunique : UniqueNames m) :
    ((baseline.samples m).map MetricSample.seriesName).Nodup := by
  obtain ⟨benchmarks, loadTests, systems, hbenchmarks, hloadTests, hsystems, hsamples⟩ :=
    exists_compared baseline m
  obtain ⟨hbenchmark, hbenchmarks⟩ := hbenchmarks.pairwise (by decide) hunique.benchmarks
  obtain ⟨hloadTest, hloadTests⟩ := hloadTests.pairwise (by decide) hunique.loadTests
  obtain ⟨hsystem, hsystems⟩ := hsystems.pairwise (by decide) hunique.systems
  have hfigures : (baseline.samples m).Pairwise fun s t => ¬SameFigure s t := by
    rw [hsamples, List.pairwise_append, List.pairwise_append]
    refine ⟨⟨hbenchmarks, hloadTests, ?_⟩, hsystems, ?_⟩
    · rintro s hs t ht ⟨hcategory, -, -⟩
      rw [(hbenchmark s hs).1, (hloadTest t ht).1] at hcategory
      cases hcategory
    · rintro s hs t ht ⟨hcategory, -, -⟩
      rw [(hsystem t ht).1] at hcategory
      obtain hs | hs := List.mem_append.1 hs
      · rw [(hbenchmark s hs).1] at hcategory
        cases hcategory
      · rw [(hloadTest s hs).1] at hcategory
        cases hcategory
  apply List.pairwise_map.2
  apply hfigures.imp_of_mem
  intro s t hs ht hne hname
  exact hne (sameFigure_of_seriesName (paired_of_mem_samples hs).plain
    (paired_of_mem_samples ht).plain hname)

end Samples

/-! ### Series and their trends -/

section Series

variable {m : SeriesMap} {s t : MetricSample Float} {samples samples' : List (MetricSample Float)}

lemma get?_extend_of_ne (h : s.seriesName ≠ t.seriesName) :
    (SeriesMap.extend m s).get? t.seriesName = NameMap.get? m t.seriesName :=
  (get?_alter ..).trans (if_neg h.symm)

lemma extend_comm (h : s.seriesName ≠ t.seriesName) :
    SeriesMap.extend (SeriesMap.extend m s) t = SeriesMap.extend (SeriesMap.extend m t) s := by
  apply nameMap_ext
  intro key
  unfold SeriesMap.extend
  simp only [get?_alter, if_neg h, if_neg h.symm]
  by_cases hs : key = s.seriesName
  · rw [if_neg (hs ▸ h), if_pos hs, if_pos hs]
  · rw [if_neg hs, if_neg hs]

lemma trend?_extend_of_ne (settings : AnalyzerSettings) (h : s.seriesName ≠ t.seriesName) :
    SeriesMap.trend? (SeriesMap.extend (SeriesMap.extend m s) t) settings t =
      SeriesMap.trend? (SeriesMap.extend m t) settings t := by
  unfold SeriesMap.trend?
  rw [extend_comm h, get?_extend_of_ne h]

lemma extendAll_fst (settings : AnalyzerSettings) (m : SeriesMap)
    (samples : List (MetricSample Float)) :
    (SeriesMap.extendAll settings m samples).1 = samples.foldl SeriesMap.extend m := by
  induction samples generalizing m with
  | nil => rfl
  | cons s rest ih => exact ih (SeriesMap.extend m s)

/-- Samples of different series are judged without regard to each other. -/
lemma extendAll_snd (settings : AnalyzerSettings)
    (hnames : (samples.map MetricSample.seriesName).Nodup) :
    (SeriesMap.extendAll settings m samples).2 =
      samples.filterMap fun s => SeriesMap.trend? (SeriesMap.extend m s) settings s := by
  induction samples generalizing m with
  | nil => rfl
  | cons s rest ih =>
    rw [List.map_cons, List.nodup_cons] at hnames
    obtain ⟨hs, hrest⟩ := hnames
    have htrends : (rest.filterMap fun t =>
        SeriesMap.trend? (SeriesMap.extend (SeriesMap.extend m s) t) settings t) =
        rest.filterMap fun t => SeriesMap.trend? (SeriesMap.extend m t) settings t := by
      apply List.filterMap_congr
      intro t ht
      apply trend?_extend_of_ne
      exact fun hname => hs (hname ▸ List.mem_map_of_mem ht)
    change (SeriesMap.trend? (SeriesMap.extend m s) settings s).toList ++
      (SeriesMap.extendAll settings (SeriesMap.extend m s) rest).2 = _
    rw [ih hrest, htrends, List.filterMap_cons]
    cases SeriesMap.trend? (SeriesMap.extend m s) settings s <;> rfl

lemma extendAll_perm (settings : AnalyzerSettings)
    (hnames : (samples.map MetricSample.seriesName).Nodup) (hperm : samples.Perm samples') :
    (SeriesMap.extendAll settings m samples).1 = (SeriesMap.extendAll settings m samples').1 ∧
      (SeriesMap.extendAll settings m samples).2.Perm
        (SeriesMap.extendAll settings m samples').2 := by
  have hnames' : (samples'.map MetricSample.seriesName).Nodup :=
    (hperm.map _).nodup_iff.1 hnames
  constructor
  · rw [extendAll_fst, extendAll_fst]
    apply hperm.foldl_eq'
    intro s hs t ht m
    by_cases hst : s.seriesName = t.seriesName
    · rw [List.inj_on_of_nodup_map hnames hs ht hst]
    · exact extend_comm hst
  · rw [extendAll_snd settings hnames, extendAll_snd settings hnames']
    exact hperm.filterMap _

end Series

/-! ### Reports -/

section Reports

lemma mergeSort_perm_of_perm {α : Type} {l l' : List α} (le : α → α → Bool) (hperm : l.Perm l') :
    (l.mergeSort le).Perm (l'.mergeSort le) :=
  (List.mergeSort_perm l le).trans (hperm.trans (List.mergeSort_perm l' le).symm)

lemma pairwise_levels {α β : Type} (rank : β → ℕ) (level : α → β) (l : List α) :
    ((l.mergeSort fun a b => rank (level b) ≤ rank (level a)).map level).Pairwise
      fun x y => rank y ≤ rank x :=
  List.pairwise_map.2 (isStableSort_mergeSort (fun a => rank (level a)) l).descends

/-- What is sorted by its level has the same levels, place by place, whatever its order was. -/
lemma levels_of_perm {α β : Type} {rank : β → ℕ} {level : α → β} {l l' : List α}
    (hrank : ∀ {x y}, rank x = rank y → x = y) (hperm : l.Perm l') :
    (l.mergeSort fun a b => rank (level b) ≤ rank (level a)).map level =
      (l'.mergeSort fun a b => rank (level b) ≤ rank (level a)).map level := by
  apply List.Perm.eq_of_pairwise _ (pairwise_levels rank level l) (pairwise_levels rank level l')
  · exact (mergeSort_perm_of_perm _ hperm).map level
  · intro x y _ _ hyx hxy
    exact hrank (Nat.le_antisymm hxy hyx)

lemma significance_rank_injective {s t : Significance} (h : s.rank = t.rank) : s = t := by
  cases s <;> cases t <;> first | rfl | cases h

lemma figures_perm {m m' : Measurements} (h : Rearranged m m') (limits : BottleneckLimits) :
    (Bottleneck.figures m limits).Perm (Bottleneck.figures m' limits) :=
  ((h.benchmarks.map _).append (h.loadTests.flatMap_right _)).append (h.systems.flatMap_right _)

/-- A report on rearranged items, whose samples have series of their own. -/
lemma analysisReport_rearranged (settings : AnalyzerSettings) (now now' : Timestamp)
    (name version : String) (series : SeriesMap) {samples samples' : List (MetricSample Float)}
    {m m' : Measurements}
    (hnames : (samples.map MetricSample.seriesName).Nodup) (hsamples : samples.Perm samples')
    (h : Rearranged m m') :
    SameFindings (analysisReport settings now name version series samples m)
      (analysisReport settings now' name version series samples' m') := by
  have hseverities : (Analyzer.regressions settings samples).map RegressionFinding.severity =
      (Analyzer.regressions settings samples').map RegressionFinding.severity :=
    levels_of_perm severity_rank_injective (hsamples.filterMap _)
  have hsignificances :
      (Analyzer.improvements settings samples).map ImprovementFinding.significance =
        (Analyzer.improvements settings samples').map ImprovementFinding.significance :=
    levels_of_perm significance_rank_injective (hsamples.filterMap _)
  constructor
  case name => rfl
  case version => rfl
  case regressions => exact mergeSort_perm_of_perm _ (hsamples.filterMap _)
  case improvements => exact mergeSort_perm_of_perm _ (hsamples.filterMap _)
  case trends => exact (extendAll_perm settings hnames hsamples).2
  case bottlenecks => exact mergeSort_perm_of_perm _ ((figures_perm h _).filterMap _)
  case severities => exact hseverities
  case significances => exact hsignificances
  case worst =>
    unfold AnalysisResult.worstSeverity?
    exact congrArg (List.foldl _ none) hseverities
  case score => exact congrArg₂ overallScore hseverities hsignificances

end Reports

/-! ### Analyzers that answer alike -/

/-- Analyzers in which every analysis reads the same. -/
structure Interchangeable (a a' : Analyzer) : Prop where
  settings : a.settings = a'.settings
  held : ∀ name, (heldUnder name a).reading = (heldUnder name a').reading

open Operation

/-- The answers to some operations on an analyzer, apart from the times of analyses. -/
def answersFrom (a : Analyzer) (ops : List Operation) : List Answer :=
  ((ops.mapM perform).run a).1.map (Option.map (Except.map untimedResult))

section Alike

variable {a a' : Analyzer} {settings : AnalyzerSettings} {name : String} {held held' : HeldUnder}

lemma reading_compared (h : held.reading = held'.reading) {current current' : Measurements}
    (hcompared : ∀ m b, held.baseline = some b →
      (SeriesMap.extendAll settings m (b.measurements.samples current)).1 =
        (SeriesMap.extendAll settings m (b.measurements.samples current')).1) :
    (held.compared settings current).reading = (held'.compared settings current').reading := by
  obtain ⟨baseline, series⟩ := held
  obtain ⟨baseline', series'⟩ := held'
  obtain ⟨hbaseline, rfl⟩ := Prod.mk.inj h
  cases baseline with
  | none =>
    cases baseline' with
    | none => rfl
    | some b' => cases hbaseline
  | some b =>
    cases baseline' with
    | none => cases hbaseline
    | some b' =>
      have hpairs := Option.some.inj hbaseline
      have hsamples := (Prod.mk.inj hpairs).2
      have hseries := hcompared (series.getD NameMap.empty) b rfl
      unfold HeldUnder.compared
      refine Prod.ext hbaseline (congrArg some (hseries.trans ?_))
      rw [hsamples]

lemma reading_onHeld (h : held.reading = held'.reading) (op : Operation) :
    (onHeld settings name held op).reading = (onHeld settings name held' op).reading := by
  cases op with
  | create now stored version measurements =>
    rw [onHeld, onHeld]
    by_cases hname : stored = name
    · rw [if_pos hname, if_pos hname]
    · rw [if_neg hname, if_neg hname, h]
  | remove removed =>
    rw [onHeld, onHeld]
    by_cases hname : removed = name
    · rw [if_pos hname, if_pos hname]
    · rw [if_neg hname, if_neg hname, h]
  | analyze now against current =>
    rw [onHeld, onHeld]
    by_cases hname : against = name
    · rw [if_pos hname, if_pos hname]
      exact reading_compared h fun _ _ _ => rfl
    · rw [if_neg hname, if_neg hname, h]
  | clearHistory =>
    have hbaseline : held.reading.1 = held'.reading.1 := congrArg Prod.fst h
    exact Prod.ext hbaseline rfl
  | clearBaselines => rfl

/-- What an operation answers, apart from the time of an analysis. -/
def answerTo (a : Analyzer) : Operation → Answer
  | .analyze now name current => some (answer (a.analyze now name current))
  | _ => none

namespace Interchangeable

lemma refl (a : Analyzer) : Interchangeable a a := ⟨rfl, fun _ => rfl⟩

lemma answerTo_untimed (h : Interchangeable a a') (op : Operation) :
    answerTo a op.untimed = answerTo a' op := by
  cases op with
  | analyze now name current => exact congrArg some (answer_congr h.settings (h.held name) ..)
  | _ => rfl

/-- Operations at other times have the same answers. -/
lemma answerTo_eq (h : Interchangeable a a') {op op' : Operation} (hop : op.untimed = op'.untimed) :
    answerTo a op = answerTo a' op' := by
  rw [← (refl a).answerTo_untimed, hop, h.answerTo_untimed]

/-- An operation leaves no difference where there was none. -/
lemma step (h : Interchangeable a a') {op op' : Operation} (hop : op.untimed = op'.untimed) :
    Interchangeable (apply a op) (apply a' op') := by
  constructor
  · rw [apply_settings, apply_settings, h.settings]
  · intro name
    rw [heldUnder_apply, heldUnder_apply, h.settings, ← reading_untimed, onHeld_untimed, hop,
      ← onHeld_untimed, reading_untimed]
    exact reading_onHeld (h.held name) op'

end Interchangeable

lemma perform_answer (a : Analyzer) (op : Operation) :
    ((perform op).run a).1.map (Except.map untimedResult) = answerTo a op := by
  cases op with
  | analyze now name current =>
    change some (((Analyzer.analyzeM now name current).run.run a).1.map untimedResult) =
      some (answer (a.analyze now name current))
    rw [analyzeM_run]
    cases a.analyze now name current <;> rfl
  | _ => rfl

lemma answersFrom_cons (a : Analyzer) (op : Operation) (rest : List Operation) :
    answersFrom a (op :: rest) = answerTo a op :: answersFrom (apply a op) rest := by
  rw [← perform_answer, ← perform_run]
  unfold answersFrom
  rw [List.mapM_cons]
  rfl

lemma Interchangeable.answersFrom_eq (h : Interchangeable a a') {ops ops' : List Operation}
    (hops : ops.map Operation.untimed = ops'.map Operation.untimed) :
    answersFrom a ops = answersFrom a' ops' := by
  induction ops generalizing a a' ops' with
  | nil =>
    rw [List.map_nil, eq_comm, List.map_eq_nil_iff] at hops
    rw [hops]
    rfl
  | cons op rest ih =>
    cases ops' with
    | nil => cases hops
    | cons op' rest' =>
      obtain ⟨hop, hrest⟩ := List.cons.inj hops
      rw [answersFrom_cons, answersFrom_cons, h.answerTo_eq hop, ih (h.step hop) hrest]

end Alike

/-! ### Rearranging the items -/

/-- An analyzer with other measurements in one of its baselines. -/
def withMeasurements (a : Analyzer) (name : String) (b : Baseline) (m : Measurements) : Analyzer :=
  { a with baselines := a.baselines.put name { b with measurements := m } }

section Rearranging

variable {a : Analyzer} {name : String} {b : Baseline} {m m' : Measurements}

lemma interchangeable_withMeasurements (hb : a.baseline? name = some b)
    (hunique : UniqueNames b.measurements) (h : Rearranged b.measurements m) :
    Interchangeable a (withMeasurements a name b m) := by
  refine ⟨rfl, fun other => ?_⟩
  have hbaseline : (withMeasurements a name b m).baseline? other =
      if other = name then some { b with measurements := m } else a.baseline? other :=
    get?_put ..
  unfold heldUnder HeldUnder.reading
  rw [hbaseline]
  by_cases hother : other = name
  · rw [if_pos hother, hother, hb, Option.map_some, Option.map_some,
      samples_rearranged_baseline hunique h]
    rfl
  · rw [if_neg hother]
    rfl

/-- Analyses of rearranged items leave the same series behind. -/
lemma interchangeable_rearranged (a : Analyzer) (name : String) (now now' : Timestamp)
    (hunique : UniqueNames m) (h : Rearranged m m') :
    Interchangeable (apply a (.analyze now name m)) (apply a (.analyze now' name m')) := by
  constructor
  · rw [apply_settings, apply_settings]
  · intro other
    rw [heldUnder_apply, heldUnder_apply, onHeld, onHeld]
    by_cases hname : name = other
    · rw [if_pos hname, if_pos hname]
      apply reading_compared rfl
      intro series b _
      exact (extendAll_perm _ (nodup_seriesNames _ hunique) (samples_perm _ h)).1
    · rw [if_neg hname, if_neg hname]

end Rearranging

/-- The order of items. If no name is repeated in the measurements of a baseline, any order of its
items leads to the same answers to all later operations. If none is repeated among current items, any
order of them leads to the same findings, and to the same answers afterwards. -/
theorem item_order_irrelevant (a : Analyzer) (name : String) (b : Baseline)
    (hb : a.baseline? name = some b) :
    (∀ m, UniqueNames b.measurements → Rearranged b.measurements m →
      ∀ ops ops', ops.map Operation.untimed = ops'.map Operation.untimed →
        answersFrom a ops = answersFrom (withMeasurements a name b m) ops') ∧
    ∀ current current', UniqueNames current → Rearranged current current' → ∀ now now',
      ∃ result result' after after', a.analyze now name current = .ok (result, after) ∧
        a.analyze now' name current' = .ok (result', after') ∧ SameFindings result result' ∧
        ∀ ops ops', ops.map Operation.untimed = ops'.map Operation.untimed →
          answersFrom after ops = answersFrom after' ops' := by
  constructor
  · intro m hunique h ops ops' hops
    exact (interchangeable_withMeasurements hb hunique h).answersFrom_eq hops
  · intro current current' hunique h now now'
    refine ⟨_, _, _, _, analyze_eq_ok.2 ⟨b, hb, rfl, rfl⟩, analyze_eq_ok.2 ⟨b, hb, rfl, rfl⟩, ?_, ?_⟩
    · exact analysisReport_rearranged _ _ _ _ _ _ (nodup_seriesNames _ hunique) (samples_perm _ h) h
    · intro ops ops' hops
      have halike := interchangeable_rearranged a name now now' hunique h
      rw [apply, apply, analyze_eq_ok.2 ⟨b, hb, rfl, rfl⟩, analyze_eq_ok.2 ⟨b, hb, rfl, rfl⟩] at halike
      exact halike.answersFrom_eq hops

/-- Two hosts with the same figures. -/
def hostPair (first second : String) (cpuPercent : Float) : Measurements :=
  { systems := [first, second].map fun name =>
      { name, cpuPercent := .float cpuPercent, memoryBytes := 1, loadAverage := .float 0.5 } }

/-- A baseline of two hosts that has been compared with once. -/
def comparedPair : Analyzer :=
  Operation.run {}
    [.create .epoch "main" "1.0" (hostPair "eu" "us" 10.0),
     .analyze .epoch "main" (hostPair "eu" "us" 20.0)]

theorem item_order_irrelevant_pair :
    ∃ b, comparedPair.baseline? "main" = some b ∧
      (∀ ops, answersFrom comparedPair ops =
        answersFrom (withMeasurements comparedPair "main" b (hostPair "us" "eu" 10.0)) ops) ∧
      ∃ result result' after after',
        comparedPair.analyze .epoch "main" (hostPair "eu" "us" 30.0) = .ok (result, after) ∧
        comparedPair.analyze .epoch "main" (hostPair "us" "eu" 30.0) = .ok (result', after') ∧
        (result.trends.map Trend.metric).head? = some "system/eu/cpu_percent" ∧
        (result'.trends.map Trend.metric).head? = some "system/us/cpu_percent" ∧
        SameFindings result result' := by
  obtain ⟨hbaseline, hcurrent⟩ := item_order_irrelevant comparedPair "main" _ rfl
  have hunique : ∀ cpuPercent, UniqueNames (hostPair "eu" "us" cpuPercent) :=
    fun _ => ⟨.nil, .nil, show ["eu", "us"].Nodup by decide⟩
  have hswapped : ∀ cpuPercent,
      Rearranged (hostPair "eu" "us" cpuPercent) (hostPair "us" "eu" cpuPercent) :=
    fun _ => ⟨.nil, .nil, .swap _ _ _⟩
  refine ⟨_, rfl, fun ops => hbaseline _ (hunique _) (hswapped _) ops ops rfl, ?_⟩
  obtain ⟨result, result', after, after', hanalyze, hanalyze', hsame, -⟩ :=
    hcurrent _ _ (hunique 30.0) (hswapped 30.0) .epoch .epoch
  refine ⟨result, result', after, after', hanalyze, hanalyze', ?_, ?_, hsame⟩
  · obtain ⟨rfl, -⟩ := Prod.mk.inj (Except.ok.inj hanalyze)
    rfl
  · obtain ⟨rfl, -⟩ := Prod.mk.inj (Except.ok.inj hanalyze')
    rfl

end LoadTest.Proofs
