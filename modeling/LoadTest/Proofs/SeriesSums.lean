import LoadTest.Proofs.MergeAdditivity
import LoadTest.Proofs.ReportOrder
import LoadTest.Proofs.ResourceShares

/-!
# Sums of series

The samples of several workers are added up position by position, as far as all of them have one. A
byte count that would outgrow 64 bits stops at the largest value, in every partial sum anew; since no
count is negative, the last sum is nevertheless that of all counts, cut off once. So the bytes and the
time of each sum are those of a collection: they do not depend on the order of the workers, and
neither do the memory figures of the merged report. The figures that are floats have no such law.
-/

namespace LoadTest.Proofs

open ResourceSample

/-- The figures of a sample that add up in any order. -/
def timedMemory (s : ResourceSample) : Timestamp × UInt64 := (s.timestamp, s.memoryBytes)

/-- The position-wise sum where a look-up past the end of a series fails. -/
def strictSum? (series : List (List ResourceSample)) : Option (List ResourceSample) :=
  (List.range (((series.map List.length).min?).getD 0)).mapM fun i =>
    series.mapM (fun s => s[i]?) >>= combineAll?

/-- A sample tells the memory of some samples together, up to the largest 64-bit value, at the
earliest of their times. -/
structure SumsUp (samples : List ResourceSample) (total : ResourceSample) : Prop where
  bytes : bytesOf total = min (samples.map bytesOf).sum (2 ^ 64 - 1)
  taken : total.timestamp ∈ samples.map ResourceSample.timestamp
  earliest : ∀ s ∈ samples, total.timestamp.before s.timestamp = true

/-- The first, the largest and the last memory of a series, or nothing if there is none. -/
structure TellsMemory (totals : List ResourceSample) (memory : MemoryStats) : Prop where
  start : memory.startBytes.toNat = ((totals.map bytesOf).head?).getD 0
  peak : memory.peakBytes.toNat = ((totals.map bytesOf).max?).getD 0
  finish : memory.endBytes.toNat = ((totals.map bytesOf).getLast?).getD 0

/-! ### One position -/

section Position

variable {samples samples' : List ResourceSample} {total : ResourceSample}

lemma timestamp_foldl_combine (s : ResourceSample) (rest : List ResourceSample) :
    (rest.foldl combine s).timestamp =
      (rest.map ResourceSample.timestamp).foldl Timestamp.earlier s.timestamp := by
  induction rest generalizing s with
  | nil => rfl
  | cons t rest ih => exact ih (s.combine t)

lemma timestamp_combineAll (h : combineAll? samples = some total) :
    Timestamp.earliest? (samples.map ResourceSample.timestamp) = some total.timestamp := by
  cases samples with
  | nil => cases h
  | cons s rest =>
    cases h
    exact congrArg some (timestamp_foldl_combine s rest).symm

lemma sumsUp_of_combineAll (h : combineAll? samples = some total) : SumsUp samples total := by
  obtain ⟨htaken, hearliest⟩ := earliest?_eq_some_iff.1 (timestamp_combineAll h)
  exact ⟨bytesOf_combineAll h, htaken, fun s hs => hearliest _ (List.mem_map_of_mem hs)⟩

/-- The bytes and the time of a sum are those of its samples as a collection. -/
lemma combineAll_timedMemory (samples : List ResourceSample) :
    (combineAll? samples).map timedMemory =
      (Timestamp.earliest? (samples.map ResourceSample.timestamp)).map fun t =>
        (t, UInt64.ofNat (saturatedWord (samples.map bytesOf).sum)) := by
  cases samples with
  | nil => rfl
  | cons s rest =>
    -- both sides are told by the one total, so that it need not be unfolded
    obtain ⟨total, htotal⟩ : ∃ total, combineAll? (s :: rest) = some total := ⟨_, rfl⟩
    rw [timestamp_combineAll htotal, ← bytesOf_combineAll htotal, htotal, Option.map_some,
      Option.map_some]
    unfold timedMemory bytesOf
    rw [UInt64.ofNat_toNat]

lemma combineAll_timedMemory_of_perm (h : samples.Perm samples') :
    (combineAll? samples).map timedMemory = (combineAll? samples').map timedMemory := by
  rw [combineAll_timedMemory, combineAll_timedMemory,
    earliest?_eq_of_perm (h.map ResourceSample.timestamp), (h.map bytesOf).sum_eq]

end Position

/-! ### Whole series -/

section Series

variable {series series' : List (List ResourceSample)} {shortest : ℕ}

lemma min?_eq_of_perm {l l' : List ℕ} (h : l.Perm l') : l.min? = l'.min? := by
  apply Option.ext
  intro least
  rw [List.min?_eq_some_iff, List.min?_eq_some_iff]
  simp only [h.mem_iff]

lemma sumSeries_timedMemory_of_perm (h : series.Perm series') :
    (sumSeries series).map timedMemory = (sumSeries series').map timedMemory := by
  unfold sumSeries
  dsimp only
  rw [min?_eq_of_perm (h.map List.length), List.map_filterMap, List.map_filterMap]
  exact List.filterMap_congr fun i _ => combineAll_timedMemory_of_perm (h.filterMap _)

/-- No look-up of a sum falls past the end of a series. -/
lemma strictSum?_eq (h : (series.map List.length).min? = some shortest) :
    strictSum? series = some (sumSeries series) := by
  have hsamples : ∀ i ∈ List.range shortest,
      series.mapM (fun s => s[i]?) = some (samplesAt series i) := fun i hi =>
    mapM_eq_some_of_forall₂ (forall₂_samplesAt h (List.mem_range.1 hi))
  unfold strictSum?
  rw [h, Option.getD_some]
  apply mapM_eq_some_of_forall₂
  refine ((List.forall₂_and_left _ _).2 ⟨hsamples, forall₂_sumSeries h⟩).imp ?_
  rintro i total ⟨hlooked, htotal⟩
  rw [hlooked]
  exact htotal

end Series

/-! ### Memory figures -/

section Memory

lemma toNat_peak (memory : List UInt64) (peak : UInt64) :
    (memory.foldl (fun peak m => if peak ≤ m then m else peak) peak).toNat =
      (memory.map UInt64.toNat).foldl max peak.toNat := by
  induction memory generalizing peak with
  | nil => rfl
  | cons m memory ih =>
    rw [List.foldl_cons, ih, List.map_cons, List.foldl_cons]
    congr 1
    by_cases hle : peak ≤ m
    · rw [if_pos hle, max_eq_right (UInt64.le_iff_toNat_le.1 hle)]
    · rw [if_neg hle, max_eq_left (UInt64.le_iff_toNat_le.1 (UInt64.le_of_lt (UInt64.not_le.1 hle)))]

lemma foldl_max_zero (l : List ℕ) : l.foldl max 0 = l.max?.getD 0 := by
  cases l with
  | nil => rfl
  | cons n l => rw [List.max?_cons', List.foldl_cons, Nat.zero_max, Option.getD_some]

lemma tellsMemory_ofSamples (totals : List ResourceSample) :
    TellsMemory totals (MemoryStats.ofSamples totals) := by
  have hbytes : totals.map bytesOf = (totals.map ResourceSample.memoryBytes).map UInt64.toNat := by
    rw [List.map_map]
    rfl
  have hgetD (b? : Option UInt64) : (b?.getD 0).toNat = (b?.map UInt64.toNat).getD 0 :=
    (Option.getD_map UInt64.toNat 0 b?).symm
  constructor
  · rw [hbytes, List.head?_map, ← hgetD]
    exact congrArg UInt64.toNat List.headD_eq_head?_getD
  · rw [hbytes, ← foldl_max_zero]
    exact toNat_peak _ 0
  · rw [hbytes, List.getLast?_map, ← hgetD]
    exact congrArg UInt64.toNat List.getLastD_eq_getLast?

lemma ofSamples_eq_of_timedMemory {totals totals' : List ResourceSample}
    (h : totals.map timedMemory = totals'.map timedMemory) :
    MemoryStats.ofSamples totals = MemoryStats.ofSamples totals' := by
  have hmemory := congrArg (List.map Prod.snd) h
  rw [List.map_map, List.map_map] at hmemory
  change totals.map ResourceSample.memoryBytes = totals'.map ResourceSample.memoryBytes at hmemory
  unfold MemoryStats.ofSamples
  rw [hmemory]

end Memory

/-! ### Merged reports -/

section Merge

variable {run : DistributedRun} {replies replies' : List WorkerReply} {d : DistributedReport}

lemma merge_memory (h : run.merge replies = .ok d) :
    d.report.memory =
      MemoryStats.ofSamples (sumSeries (replies.filterMap WorkerReply.series?)) := by
  obtain ⟨outcomes, throughput, -, -, -, -, rfl⟩ := merge_eq_ok.1 h
  rfl

/-- Whether a report can be merged does not depend on the order of the workers. -/
lemma exists_merge_of_perm (hperm : replies.Perm replies') (h : run.merge replies = .ok d) :
    ∃ d', run.merge replies' = .ok d' := by
  obtain ⟨outcomes, throughput, houtcomes, habandoned, hskipped, hthroughput, -⟩ := merge_eq_ok.1 h
  obtain ⟨outcomes', houtcomes', hsame⟩ := mapM_perm_ok hperm houtcomes
  rw [(hperm.map _).sum_eq] at habandoned hskipped
  rw [ofOutcomes_eq_of_perm hsame.flatten] at hthroughput
  exact ⟨_, merge_eq_ok.2
    ⟨outcomes', throughput, houtcomes', habandoned, hskipped, hthroughput, rfl⟩⟩

lemma merge_memory_of_perm {d' : DistributedReport} (hperm : replies.Perm replies')
    (h : run.merge replies = .ok d) (h' : run.merge replies' = .ok d') :
    d'.report.memory = d.report.memory := by
  have hsums := sumSeries_timedMemory_of_perm (hperm.filterMap WorkerReply.series?)
  rw [merge_memory h, merge_memory h', ofSamples_eq_of_timedMemory hsums]

end Merge

/-- Series add up position by position, in any order. The sum of one or more series is as long as the
shortest of them, and to compute it no series is read past its end; at every position it has the
memory of all series together, up to the largest 64-bit value, at the earliest of their times. Neither
figure depends on the order of the series. Nor do, in the report of a distributed run, the memory at
the start, at the peak and at the end, which are the first, the largest and the last of these sums. -/
theorem series_summed_in_any_order (series : List (List ResourceSample)) (hworkers : series ≠ []) :
    (∃ shortest, (series.map List.length).min? = some shortest ∧
      (sumSeries series).length = shortest ∧ strictSum? series = some (sumSeries series) ∧
      ∀ i < shortest, ∃ samples total,
        List.Forall₂ (fun s sample => s[i]? = some sample) series samples ∧
        (sumSeries series)[i]? = some total ∧ SumsUp samples total) ∧
    (∀ series', series.Perm series' →
      (sumSeries series).map timedMemory = (sumSeries series').map timedMemory) ∧
    ∀ (run : DistributedRun) (replies replies' : List WorkerReply) (d : DistributedReport),
      replies.Perm replies' → run.merge replies = .ok d →
        TellsMemory (sumSeries (replies.filterMap WorkerReply.series?)) d.report.memory ∧
        ∃ d', run.merge replies' = .ok d' ∧ d'.report.memory = d.report.memory := by
  refine ⟨?_, fun _ => sumSeries_timedMemory_of_perm, fun run replies replies' d hperm h => ?_⟩
  · obtain ⟨shortest, hshortest⟩ : ∃ shortest, (series.map List.length).min? = some shortest :=
      Option.isSome_iff_exists.1 (List.isSome_min?_of_ne_nil (by simpa using hworkers))
    obtain ⟨hlength, htotals⟩ := sumSeries_eq hshortest
    refine ⟨shortest, hshortest, hlength, strictSum?_eq hshortest, fun i hi => ?_⟩
    obtain ⟨total, htotal, hsum⟩ := htotals i hi
    exact ⟨_, total, forall₂_samplesAt hshortest hi, htotal, sumsUp_of_combineAll hsum⟩
  · obtain ⟨d', h'⟩ := exists_merge_of_perm hperm h
    refine ⟨?_, d', h', merge_memory_of_perm hperm h h'⟩
    rw [merge_memory h]
    exact tellsMemory_ofSamples _

def timedSample (timestamp : Timestamp) (bytes : UInt64) : ResourceSample :=
  { memorySample bytes with timestamp }

/-- Three workers, the second of which has seen as much memory as can be told, later than others. -/
def cutOffSeries : List (List ResourceSample) :=
  [[timedSample ⟨5, 0, by decide⟩ 7, timedSample ⟨6, 0, by decide⟩ 10,
    timedSample ⟨7, 0, by decide⟩ 1],
   [timedSample ⟨9, 0, by decide⟩ 18446744073709551615, timedSample ⟨9, 5, by decide⟩ 20],
   [timedSample ⟨4, 0, by decide⟩ 3, timedSample ⟨9, 4, by decide⟩ 30]]

/-- The replies of these workers, of one that took no samples and of one that was lost. -/
def cutOffReplies : List WorkerReply :=
  let replyOf (samples : List ResourceSample) : Except Failure WorkerResult :=
    .ok { workerIndex := 0, outcomes := [], abandonedRequests := 0, skippedRequests := 0,
          resourceSamples := samples, failure := none }
  (cutOffSeries.map replyOf ++ [replyOf [], .error (.workerFailure 4 "gone")]).map
    (WorkerReply.mk { workerIndex := 0, users := 1, requestsPerSecond := none, rampUpOffset := .zero })

theorem series_summed_in_any_order_cut_off :
    (∃ total, (sumSeries cutOffSeries)[0]? = some total ∧ bytesOf total = 2 ^ 64 - 1) ∧
    (sumSeries cutOffSeries.reverse).map timedMemory =
      [(⟨4, 0, by decide⟩, 18446744073709551615), (⟨6, 0, by decide⟩, 60)] ∧
    ∃ d, halfLostRun.merge cutOffReplies.reverse = .ok d ∧
      d.report.memory.startBytes.toNat = 2 ^ 64 - 1 ∧
      d.report.memory.peakBytes.toNat = 2 ^ 64 - 1 ∧ d.report.memory.endBytes.toNat = 60 := by
  obtain ⟨⟨shortest, hshortest, -, -, hsums⟩, horder, hmerged⟩ :=
    series_summed_in_any_order cutOffSeries (by simp [cutOffSeries])
  obtain rfl : 2 = shortest := Option.some.inj hshortest
  have hfits : Fits halfLostRun cutOffReplies := by
    refine ⟨by decide, by decide, ?_, by decide, by decide⟩
    simp [cutOffReplies, cutOffSeries, isLost, halfLostRun, WorkerPartition.expectedRequests,
      longestList, requestIdBase, wordLimit]
  refine ⟨?_, ?_, ?_⟩
  · obtain ⟨samples, total, hsamples, htotal, hsum⟩ := hsums 0 (by decide)
    obtain rfl := filterMap_eq_of_forall₂ hsamples
    exact ⟨total, htotal, hsum.bytes⟩
  · rw [← horder _ (List.reverse_perm _).symm]
    rfl
  · -- the replies are merged in their own order, and the report of the other order is compared
    obtain ⟨d, hd⟩ := exists_merge hfits
    obtain ⟨htells, d', hd', hsame⟩ := hmerged _ _ _ d (List.reverse_perm _).symm hd
    rw [← hsame] at htells
    exact ⟨d', hd', htells.start, htells.peak, htells.finish⟩

end LoadTest.Proofs
