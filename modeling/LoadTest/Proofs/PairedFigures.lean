import LoadTest.Analysis.Analyzer
import Mathlib.Data.List.Basic
import Mathlib.Tactic.Lemma

/-!
# Paired figures and the names of their series

Measurements pair each current item with the first item of its name in the same part of the
baseline. The name of a series joins category, item and metric with slashes. Items may hold slashes
themselves, but categories and metrics do not, so that the name tells the three apart.
-/

namespace LoadTest.Proofs

/-- The figure of the first item of a name in one part of some measurements. -/
def figure? (m : Measurements) (category : MetricCategory) (item metric : String) : Option Float :=
  match category with
  | .benchmark => (m.benchmarks.find? fun b => b.name = item).bind fun b =>
    [("average_time_ms", b.averageTimeMillis.value),
     ("operations_per_second", b.operationsPerSecond.value),
     ("memory_bytes", Float.ofNat b.memoryBytes.toNat)].lookup metric
  | .loadTest => (m.loadTests.find? fun l => l.name = item).bind fun l =>
    [("throughput_rps", l.throughput.value),
     ("average_response_time_ms", l.averageResponseMillis.value),
     ("p95_response_time_ms", l.p95ResponseMillis.value),
     ("p99_response_time_ms", l.p99ResponseMillis.value), ("error_rate", l.errorRate.value),
     ("peak_memory_bytes", Float.ofNat l.peakMemoryBytes.toNat)].lookup metric
  | .system => (m.systems.find? fun s => s.name = item).bind fun s =>
    [("cpu_percent", s.cpuPercent.value), ("memory_bytes", Float.ofNat s.memoryBytes.toNat),
     ("load_average", s.loadAverage.value)].lookup metric

/-- A sample holds a figure of a baseline, and its metric has a plain name. -/
structure Paired (baseline : Measurements) (s : MetricSample Float) : Prop where
  figure : figure? baseline s.category s.item s.metric = some s.baseline
  plain : '/' ∉ s.metric.toList

lemma paired_of_mem_samples {baseline current : Measurements} {s : MetricSample Float}
    (h : s ∈ baseline.samples current) : Paired baseline s := by
  simp only [Measurements.samples, List.mem_append, List.mem_flatMap] at h
  rcases h with (⟨now, -, h⟩ | ⟨now, -, h⟩) | ⟨now, -, h⟩
  · split at h
    · next before hfind =>
      simp only [BenchmarkFigures.samples, MetricSample.ofFigures, List.mem_cons,
        List.not_mem_nil, or_false] at h
      rcases h with rfl | rfl | rfl
      all_goals exact ⟨by rw [figure?, hfind]; rfl, by dsimp only; decide⟩
    · cases h
  · split at h
    · next before hfind =>
      simp only [LoadFigures.samples, MetricSample.ofFigures, List.mem_cons, List.not_mem_nil,
        or_false] at h
      rcases h with rfl | rfl | rfl | rfl | rfl | rfl
      all_goals exact ⟨by rw [figure?, hfind]; rfl, by dsimp only; decide⟩
    · cases h
  · split at h
    · next before hfind =>
      simp only [SystemFigures.samples, MetricSample.ofFigures, List.mem_cons, List.not_mem_nil,
        or_false] at h
      rcases h with rfl | rfl | rfl
      all_goals exact ⟨by rw [figure?, hfind]; rfl, by dsimp only; decide⟩
    · cases h

/-! ### Names of series -/

/-- A list is cut in one way only at the first place of a separator. -/
lemma append_cons_inj {α : Type} {a : α} {l m x y : List α} (hl : a ∉ l) (hm : a ∉ m)
    (h : l ++ a :: x = m ++ a :: y) : l = m ∧ x = y := by
  induction l generalizing m with
  | nil =>
    cases m with
    | nil => simpa using h
    | cons b m =>
      obtain ⟨rfl, -⟩ := List.cons_eq_cons.1 h
      exact absurd List.mem_cons_self hm
  | cons b l ih =>
    cases m with
    | nil =>
      obtain ⟨rfl, -⟩ := List.cons_eq_cons.1 h
      exact absurd List.mem_cons_self hl
    | cons c m =>
      obtain ⟨rfl, htail⟩ := List.cons_eq_cons.1 h
      obtain ⟨rfl, rfl⟩ := ih (fun ha => hl (List.mem_cons_of_mem _ ha))
        (fun ha => hm (List.mem_cons_of_mem _ ha)) htail
      exact ⟨rfl, rfl⟩

/-- A list is cut in one way only at the last place of a separator. -/
lemma append_cons_inj_right {α : Type} {a : α} {l m x y : List α} (hx : a ∉ x) (hy : a ∉ y)
    (h : l ++ a :: x = m ++ a :: y) : l = m ∧ x = y := by
  have hreverse : x.reverse ++ a :: l.reverse = y.reverse ++ a :: m.reverse := by
    simpa using congrArg List.reverse h
  obtain ⟨hxy, hlm⟩ := append_cons_inj (by simpa using hx) (by simpa using hy) hreverse
  exact ⟨List.reverse_inj.1 hlm, List.reverse_inj.1 hxy⟩

lemma category_name_plain (c : MetricCategory) : '/' ∉ c.name.toList := by
  cases c <;> decide

lemma category_name_inj {c d : MetricCategory} (h : c.name.toList = d.name.toList) : c = d := by
  cases c <;> cases d <;> first | rfl | exact absurd h (by decide)

lemma seriesName_toList (s : MetricSample Float) :
    s.seriesName.toList =
      s.category.name.toList ++ '/' :: (s.item.toList ++ '/' :: s.metric.toList) := by
  simp [MetricSample.seriesName, String.toList_append]

/-- Two samples of the same figure of the same item. -/
def SameFigure (s t : MetricSample Float) : Prop :=
  s.category = t.category ∧ s.item = t.item ∧ s.metric = t.metric

instance (s t : MetricSample Float) : Decidable (SameFigure s t) :=
  inferInstanceAs (Decidable (_ ∧ _))

/-- The name of a series tells its category, item and metric. -/
lemma sameFigure_of_seriesName {s t : MetricSample Float} (hs : '/' ∉ s.metric.toList)
    (ht : '/' ∉ t.metric.toList) (h : s.seriesName = t.seriesName) : SameFigure s t := by
  have hlists := congrArg String.toList h
  rw [seriesName_toList, seriesName_toList] at hlists
  obtain ⟨hcategory, hrest⟩ :=
    append_cons_inj (category_name_plain _) (category_name_plain _) hlists
  obtain ⟨hitem, hmetric⟩ := append_cons_inj_right hs ht hrest
  exact ⟨category_name_inj hcategory, String.ext hitem, String.ext hmetric⟩

lemma seriesName_eq_iff {s t : MetricSample Float} (hs : '/' ∉ s.metric.toList)
    (ht : '/' ∉ t.metric.toList) : s.seriesName = t.seriesName ↔ SameFigure s t := by
  refine ⟨sameFigure_of_seriesName hs ht, fun ⟨hcategory, hitem, hmetric⟩ => ?_⟩
  rw [MetricSample.seriesName, hcategory, hitem, hmetric, MetricSample.seriesName]

end LoadTest.Proofs
