import LoadTest.Proofs.ReportOrder
import Mathlib.Algebra.Group.Action.Defs
import Mathlib.Algebra.Order.BigOperators.Group.List

/-!
# Windows of the throughput

Completions are numbered by the window in which they fall. The figures of the throughput are those of
a histogram that has a place for every window up to the last one used, empty windows included.
-/

namespace LoadTest.Proofs

/-- The number of the window in which a request ended, in windows of `width` milliseconds from
`origin` on. What ended before falls into the first one. -/
def windowNumber (origin : Timestamp) (width : ℕ) (o : Outcome) : ℕ :=
  (max 0 ((o.endedAt.nanosSince origin).tdiv 1000000)).toNat / width

/-- The throughput tells the histogram of the given window numbers. -/
structure TellsHistogram (numbers : List ℕ) (stats : ThroughputStats) : Prop where
  windows : ∃ last ∈ numbers, (∀ i ∈ numbers, i ≤ last) ∧ stats.windows = last + 1
  least : (countsByWindow numbers stats.windows).min? = some stats.minPerWindow
  greatest : (countsByWindow numbers stats.windows).max? = some stats.maxPerWindow
  filled : numbers.foldlM ThroughputStats.recordCompletion #[] =
    .ok (countsByWindow numbers stats.windows).toArray
  total : (countsByWindow numbers stats.windows).sum = numbers.length
  lastUsed : 0 < numbers.count (stats.windows - 1)
  atLeast : stats.minPerWindow * stats.windows ≤ numbers.length
  atMost : numbers.length ≤ stats.maxPerWindow * stats.windows

section Throughput

variable {window : Duration} {outcomes : List Outcome} {origin : Timestamp}

lemma signedWidth_eq (h : window.millis < 2 ^ 63) :
    ThroughputStats.signedWidth window = (max 1 window.millis : ℕ) := by
  unfold ThroughputStats.signedWidth wordLimit
  rw [Int.bmod_eq_of_le (by omega) (by omega)]
  omega

lemma windowOf_eq (h : window.millis < 2 ^ 63) (origin : Timestamp) (o : Outcome) :
    ThroughputStats.windowOf origin (ThroughputStats.signedWidth window) o =
      .ok (windowNumber origin (max 1 window.millis) o) := by
  rw [signedWidth_eq h]
  unfold ThroughputStats.windowOf windowNumber
  dsimp only
  generalize hspan : max 0 ((o.endedAt.nanosSince origin).tdiv 1000000) = span
  have hspan : 0 ≤ span := hspan ▸ le_max_left _ _
  lift span to ℕ using hspan
  have hquotient : (span : ℤ).tdiv (max 1 window.millis : ℕ) = (span / max 1 window.millis : ℕ) :=
    (Int.ofNat_tdiv _ _).symm
  rw [if_neg (by omega), hquotient, if_neg (Int.not_lt.2 (Int.natCast_nonneg _)), Int.toNat_natCast,
    Int.toNat_natCast]

lemma tellsHistogram {numbers : List ℕ} (hne : numbers ≠ []) {stats : ThroughputStats}
    (hwindows : stats.windows = windowsUpTo 0 numbers)
    (hmin : stats.minPerWindow = (countsByWindow numbers stats.windows).min?.getD 0)
    (hmax : stats.maxPerWindow = (countsByWindow numbers stats.windows).max?.getD 0) :
    TellsHistogram numbers stats := by
  have hfilled := completions_counted numbers
  rw [← hwindows] at hfilled
  rw [windowsUpTo_zero hne] at hwindows
  obtain ⟨hlast, hle⟩ := foldl_max_mem hne
  have hlt : ∀ i ∈ numbers, i < stats.windows := by
    intro i hi
    rw [hwindows]
    exact Nat.lt_succ_of_le (hle i hi)
  have hcounts : countsByWindow numbers stats.windows ≠ [] := by
    apply List.ne_nil_of_length_pos
    rw [length_countsByWindow, hwindows]
    exact Nat.succ_pos _
  have hleast : (countsByWindow numbers stats.windows).min? = some stats.minPerWindow := by
    rw [hmin]
    cases hsome : (countsByWindow numbers stats.windows).min? with
    | none => exact absurd (List.min?_eq_none_iff.1 hsome) hcounts
    | some n => rfl
  have hgreatest : (countsByWindow numbers stats.windows).max? = some stats.maxPerWindow := by
    rw [hmax]
    cases hsome : (countsByWindow numbers stats.windows).max? with
    | none => exact absurd (List.max?_eq_none_iff.1 hsome) hcounts
    | some n => rfl
  have htotal := sum_countsByWindow hlt
  constructor
  case windows => exact ⟨_, hlast, hle, hwindows⟩
  case least => exact hleast
  case greatest => exact hgreatest
  case filled => exact hfilled
  case total => exact htotal
  case lastUsed =>
    rw [hwindows, Nat.add_sub_cancel]
    exact List.count_pos_iff.2 hlast
  case atLeast =>
    have hbound := List.card_nsmul_le_sum _ _ (List.min?_eq_some_iff.1 hleast).2
    rw [length_countsByWindow, htotal, smul_eq_mul, Nat.mul_comm] at hbound
    exact hbound
  case atMost =>
    have hbound := List.sum_le_card_nsmul _ _ (List.max?_eq_some_iff.1 hgreatest).2
    rw [length_countsByWindow, htotal, smul_eq_mul, Nat.mul_comm] at hbound
    exact hbound

lemma exists_origin (hne : outcomes ≠ []) :
    ∃ origin, Timestamp.earliest? (outcomes.map Outcome.startedAt) = some origin := by
  cases outcomes with
  | nil => exact absurd rfl hne
  | cons o rest => exact ⟨_, rfl⟩

/-- Outcomes whose windows have numbers have a throughput, which tells their histogram. -/
lemma exists_tellsHistogram (hne : outcomes ≠ [])
    (horigin : Timestamp.earliest? (outcomes.map Outcome.startedAt) = some origin) {width : ℕ}
    (hwidth : (ThroughputStats.signedWidth window % wordLimit).toNat = width)
    (hnumbers : outcomes.mapM
      (ThroughputStats.windowOf origin (ThroughputStats.signedWidth window)) =
        .ok (outcomes.map (windowNumber origin width))) :
    ∃ stats, ThroughputStats.ofOutcomes outcomes window = .ok stats ∧ stats.windowMillis = width ∧
      TellsHistogram (outcomes.map (windowNumber origin width)) stats := by
  have hsome : outcomes.map (windowNumber origin width) ≠ [] := by simpa using hne
  unfold ThroughputStats.ofOutcomes
  dsimp only
  rw [horigin]
  dsimp only
  refine ⟨_, bind_eq_ok.2 ⟨_, hnumbers, bind_eq_ok.2 ⟨_, completions_counted _, rfl⟩⟩, hwidth,
    tellsHistogram hsome ?_ ?_ ?_⟩
  · exact length_countsByWindow _ _
  · exact congrArg (fun n => (countsByWindow _ n).min?.getD 0) (length_countsByWindow _ _).symm
  · exact congrArg (fun n => (countsByWindow _ n).max?.getD 0) (length_countsByWindow _ _).symm

/-- Every width that a signed number can hold gives a number to each window. -/
lemma exists_tellsHistogram_signed (hne : outcomes ≠ []) (hwindow : window.millis < 2 ^ 63)
    (horigin : Timestamp.earliest? (outcomes.map Outcome.startedAt) = some origin) :
    ∃ stats, ThroughputStats.ofOutcomes outcomes window = .ok stats ∧
      stats.windowMillis = max 1 window.millis ∧
      TellsHistogram (outcomes.map (windowNumber origin (max 1 window.millis))) stats := by
  apply exists_tellsHistogram hne horigin
  · rw [signedWidth_eq hwindow, wordLimit]
    omega
  · rw [funext (windowOf_eq hwindow origin)]
    exact List.mapM_pure

lemma exists_throughput (hwindow : window.millis < 2 ^ 63) (outcomes : List Outcome) :
    ∃ throughput, ThroughputStats.ofOutcomes outcomes window = .ok throughput := by
  by_cases hne : outcomes = []
  · subst hne
    exact ⟨_, rfl⟩
  · obtain ⟨origin, horigin⟩ := exists_origin hne
    obtain ⟨stats, hstats, -⟩ := exists_tellsHistogram_signed hne hwindow horigin
    exact ⟨stats, hstats⟩

end Throughput

/-- The throughput of some outcomes is the histogram of their ends, in windows of whole milliseconds
counted from the earliest start. There is one for every width that a signed number can hold. -/
theorem throughput_tells_histogram (outcomes : List Outcome) (window : Duration)
    (hne : outcomes ≠ []) (hwindow : window.millis < 2 ^ 63) :
    ∃ origin stats, origin ∈ outcomes.map Outcome.startedAt ∧
      (∀ o ∈ outcomes, origin.before o.startedAt = true) ∧
      ThroughputStats.ofOutcomes outcomes window = .ok stats ∧
      stats.windowMillis = max 1 window.millis ∧
      TellsHistogram (outcomes.map (windowNumber origin (max 1 window.millis))) stats := by
  obtain ⟨origin, horigin⟩ := exists_origin hne
  obtain ⟨hmem, hbefore⟩ := earliest?_eq_some_iff.1 horigin
  obtain ⟨stats, hstats⟩ := exists_tellsHistogram_signed hne hwindow horigin
  exact ⟨origin, stats, hmem, fun o ho => hbefore _ (List.mem_map_of_mem ho), hstats⟩

/-- Requests of which one ends two windows after the others, and one before any of them starts. -/
def scatteredOutcomes : List Outcome :=
  [{ id := 2, startedAt := ⟨102, 100000000, by decide⟩, endedAt := ⟨102, 150000000, by decide⟩,
     duration := .ofMillis 50, status := .success, error := none },
   { id := 0, startedAt := ⟨100, 0, by decide⟩, endedAt := ⟨100, 100000000, by decide⟩,
     duration := .ofMillis 100, status := .success, error := none },
   { id := 1, startedAt := ⟨100, 200000000, by decide⟩, endedAt := ⟨99, 0, by decide⟩,
     duration := .zero, status := .failed, error := some "refused" }]

theorem throughput_tells_histogram_gap :
    scatteredOutcomes ≠ [] ∧ (Duration.ofMillis 1000).millis < 2 ^ 63 ∧
    ∃ stats, ThroughputStats.ofOutcomes scatteredOutcomes (.ofMillis 1000) = .ok stats ∧
      stats.windowMillis = 1000 ∧ TellsHistogram [2, 0, 0] stats ∧ stats.windows = 3 ∧
      stats.minPerWindow = 0 ∧ stats.maxPerWindow = 2 := by
  have hne : scatteredOutcomes ≠ [] := List.cons_ne_nil _ _
  have hwindow : (Duration.ofMillis 1000).millis < 2 ^ 63 := by decide
  obtain ⟨origin, stats, hmem, hbefore, hstats, hwidth, htells⟩ :=
    throughput_tells_histogram scatteredOutcomes (.ofMillis 1000) hne hwindow
  obtain rfl : origin = ⟨100, 0, by decide⟩ := by
    have hfirst := earliest?_eq_some_iff.2 ⟨hmem, fun t ht => by
      obtain ⟨o, ho, rfl⟩ := List.mem_map.1 ht
      exact hbefore o ho⟩
    exact Option.some.inj hfirst.symm
  have htells : TellsHistogram [2, 0, 0] stats := htells
  have hwindows : stats.windows = 3 := by
    obtain ⟨last, hlast, hle, hwindows⟩ := htells.windows
    have htwo := hle 2 List.mem_cons_self
    simp only [List.mem_cons, List.not_mem_nil, or_false] at hlast
    omega
  have hleast := htells.least
  have hgreatest := htells.greatest
  rw [hwindows] at hleast hgreatest
  exact ⟨hne, hwindow, stats, hstats, hwidth, htells, hwindows, (Option.some.inj hleast).symm,
    (Option.some.inj hgreatest).symm⟩

end LoadTest.Proofs
