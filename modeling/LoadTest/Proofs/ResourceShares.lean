import LoadTest.Proofs.Collections
import LoadTest.Run.Basic
import Mathlib

/-!
# Shares of the resources of a process

Workers that are threads of one process all see the whole of it, so that each records its share of
every sample, rounded down to a byte. The sum of the shares is again about what the process uses: it
exceeds no figure that all workers stay below, and misses one that all reach by less than a byte for
each worker. So the sum of the byte counts, which stops at the largest 64-bit value, never gets there.
-/

namespace LoadTest.Proofs

open ResourceSample

/-- The memory that a sample tells, as a number. -/
def bytesOf (s : ResourceSample) : ℕ := s.memoryBytes.toNat

/-! ### Sums of samples -/

section Sums

variable {series : List (List ResourceSample)} {shortest i : ℕ}

lemma bytesOf_lt (s : ResourceSample) : bytesOf s < wordLimit := s.memoryBytes.toNat_lt

lemma bytesOf_combine (a b : ResourceSample) :
    bytesOf (a.combine b) = saturatedWord (bytesOf a + bytesOf b) := by
  have hfits : saturatedWord (bytesOf a + bytesOf b) < 2 ^ 64 := by
    unfold saturatedWord wordLimit
    omega
  exact Nat.mod_eq_of_lt hfits

/-- Adding up with a bound on each sum gives the sum of all up to that bound. -/
lemma bytesOf_foldl_combine (s : ResourceSample) (rest : List ResourceSample) :
    bytesOf (rest.foldl combine s) = saturatedWord (bytesOf s + (rest.map bytesOf).sum) := by
  induction rest generalizing s with
  | nil =>
    have hlt := bytesOf_lt s
    simp only [List.foldl_nil, List.map_nil, List.sum_nil, saturatedWord]
    omega
  | cons t rest ih =>
    rw [List.foldl_cons, ih, bytesOf_combine, List.map_cons, List.sum_cons]
    unfold saturatedWord
    omega

lemma bytesOf_combineAll {samples : List ResourceSample} {total : ResourceSample}
    (h : combineAll? samples = some total) :
    bytesOf total = saturatedWord (samples.map bytesOf).sum := by
  cases samples with
  | nil => cases h
  | cons s rest =>
    cases h
    rw [bytesOf_foldl_combine, List.map_cons, List.sum_cons]

/-- The samples that the series have at one position. -/
def samplesAt (series : List (List ResourceSample)) (i : ℕ) : List ResourceSample :=
  series.filterMap fun s => s[i]?

/-- Every series has a sample at each position before the end of the shortest one. -/
lemma forall₂_samplesAt (h : (series.map List.length).min? = some shortest) (hi : i < shortest) :
    List.Forall₂ (fun s sample => s[i]? = some sample) series (samplesAt series i) := by
  have hle : ∀ s ∈ series, shortest ≤ s.length := fun s hs =>
    (List.min?_eq_some_iff.1 h).2 s.length (List.mem_map_of_mem hs)
  have hsome : ∀ s ∈ series, ∃ sample, s[i]? = some sample := fun s hs =>
    ⟨_, List.getElem?_eq_getElem (hi.trans_le (hle s hs))⟩
  obtain ⟨samples, hsamples⟩ := exists_forall₂ hsome
  have heq : samplesAt series i = samples := filterMap_eq_of_forall₂ hsamples
  rwa [heq]

lemma length_samplesAt (h : (series.map List.length).min? = some shortest) (hi : i < shortest) :
    (samplesAt series i).length = series.length :=
  (forall₂_samplesAt h hi).length_eq.symm

/-- The sum of some series tells at each position the sum of what they have there. -/
lemma forall₂_sumSeries (h : (series.map List.length).min? = some shortest) :
    List.Forall₂ (fun i total => combineAll? (samplesAt series i) = some total)
      (List.range shortest) (sumSeries series) := by
  have hsome : ∀ i ∈ List.range shortest, ∃ total, combineAll? (samplesAt series i) = some total := by
    intro i hi
    have hlength := length_samplesAt h (List.mem_range.1 hi)
    cases hsamples : samplesAt series i with
    | cons s rest => exact ⟨_, rfl⟩
    | nil =>
      rw [hsamples, eq_comm, List.length_nil, List.length_eq_zero_iff] at hlength
      subst hlength
      cases h
  obtain ⟨totals, htotals⟩ := exists_forall₂ hsome
  have hsum : sumSeries series = totals := by
    unfold sumSeries
    rw [h]
    exact filterMap_eq_of_forall₂ htotals
  rwa [hsum]

lemma sumSeries_eq (h : (series.map List.length).min? = some shortest) :
    (sumSeries series).length = shortest ∧ ∀ i < shortest, ∃ total,
      (sumSeries series)[i]? = some total ∧ combineAll? (samplesAt series i) = some total := by
  have htotals := forall₂_sumSeries h
  have hlength : (sumSeries series).length = shortest := by
    rw [← htotals.length_eq, List.length_range]
  refine ⟨hlength, fun i hi => ?_⟩
  have hi' : i < (sumSeries series).length := hlength ▸ hi
  refine ⟨(sumSeries series)[i], List.getElem?_eq_getElem hi', ?_⟩
  simpa using (List.forall₂_iff_get.1 htotals).2 i (by simpa using hi) hi'

end Sums

/-! ### Quotients that add up -/

section Quotients

variable {l : List ℕ} {n low top : ℕ}

lemma mul_sum_div_le (n : ℕ) (l : List ℕ) : n * (l.map (· / n)).sum ≤ l.sum := by
  induction l with
  | nil => simp
  | cons a l ih =>
    have hle := Nat.mul_div_le a n
    rw [List.map_cons, List.sum_cons, List.sum_cons, Nat.mul_add]
    omega

lemma sum_le_mul_sum_div (hn : 0 < n) (l : List ℕ) :
    l.sum ≤ n * (l.map (· / n)).sum + l.length * (n - 1) := by
  induction l with
  | nil => simp
  | cons a l ih =>
    have hdiv := Nat.div_add_mod a n
    have hrest := Nat.mod_lt a hn
    rw [List.map_cons, List.sum_cons, List.sum_cons, Nat.mul_add, List.length_cons, Nat.succ_mul]
    omega

/-- As many shares of figures up to `top` add up to no more than `top`. -/
lemma sum_shares_le (hn : l.length = n) (hpos : 0 < n) (h : ∀ b ∈ l, b ≤ top) :
    (l.map (· / n)).sum ≤ top := by
  have hsum : l.sum ≤ n * top := by simpa [hn] using List.sum_le_card_nsmul l top h
  exact Nat.le_of_mul_le_mul_left ((mul_sum_div_le n l).trans hsum) hpos

/-- As many shares of figures from `low` on miss it by less than a unit for each share. -/
lemma lt_sum_shares_add (hn : l.length = n) (hpos : 0 < n) (h : ∀ b ∈ l, low ≤ b) :
    low < (l.map (· / n)).sum + n := by
  have hsum : n * low ≤ l.sum := by simpa [hn] using List.card_nsmul_le_sum l low h
  have hle : n * low ≤ n * ((l.map (· / n)).sum + (n - 1)) := calc
    n * low ≤ n * (l.map (· / n)).sum + l.length * (n - 1) := hsum.trans (sum_le_mul_sum_div hpos l)
    _ = n * ((l.map (· / n)).sum + (n - 1)) := by rw [hn, Nat.mul_add]
  have hlow := Nat.le_of_mul_le_mul_left hle hpos
  omega

/-- Shares of the same figure add up to it but for the remainder. -/
lemma sum_shares_same {m : ℕ} (hn : l.length = n) (h : ∀ b ∈ l, b = m) :
    (l.map (· / n)).sum = m - m % n := by
  rw [List.eq_replicate_of_mem h, List.map_replicate, List.sum_replicate, hn, smul_eq_mul]
  have hdiv := Nat.div_add_mod m n
  omega

end Quotients

/-! ### Shares of samples -/

section Shares

variable {raw : List (List ResourceSample)} {n i shortest : ℕ}

lemma bytesOf_share (hpos : 0 < n) (s : ResourceSample) : bytesOf (s.share n) = bytesOf s / n := by
  have hmax : max n 1 = n := by omega
  have hfits : bytesOf s / n < 2 ^ 64 := (Nat.div_le_self ..).trans_lt s.memoryBytes.toNat_lt
  unfold bytesOf share
  rw [hmax]
  exact Nat.mod_eq_of_lt hfits

/-- What `n` workers record of the series of samples that they have taken. -/
def recordedShares (n : ℕ) (raw : List (List ResourceSample)) : List (List ResourceSample) :=
  raw.map fun series => series.map (·.share n)

lemma samplesAt_recordedShares (n : ℕ) (raw : List (List ResourceSample)) (i : ℕ) :
    samplesAt (recordedShares n raw) i = (samplesAt raw i).map (·.share n) := by
  unfold samplesAt recordedShares
  rw [List.filterMap_map, List.map_filterMap]
  congr 1
  funext series
  simp

/-- The figure of `bytes.length` workers that have read `bytes` and recorded their shares. -/
structure SharesAddUp (bytes : List ℕ) (total : ℕ) : Prop where
  /-- No sum was cut off. -/
  exact : total = (bytes.map (· / bytes.length)).sum
  atMost : ∃ top, bytes.max? = some top ∧ total ≤ top
  atLeast : ∃ low, bytes.min? = some low ∧ low < total + bytes.length
  same : ∀ m, (∀ b ∈ bytes, b = m) → total = m - m % bytes.length

lemma sharesAddUp {samples : List ResourceSample} {total : ResourceSample}
    (hlength : samples.length = n) (hpos : 0 < n)
    (h : combineAll? (samples.map (·.share n)) = some total) :
    SharesAddUp (samples.map bytesOf) (bytesOf total) := by
  obtain ⟨bytes, hbytes⟩ : ∃ bytes, bytes = samples.map bytesOf := ⟨_, rfl⟩
  have hn : bytes.length = n := by rw [hbytes, List.length_map, hlength]
  have hne : bytes ≠ [] := List.ne_nil_of_length_pos (hn ▸ hpos)
  obtain ⟨top, htop⟩ := Option.isSome_iff_exists.1 (List.isSome_max?_of_ne_nil hne)
  obtain ⟨low, hlow⟩ := Option.isSome_iff_exists.1 (List.isSome_min?_of_ne_nil hne)
  have hle := sum_shares_le hn hpos (List.max?_eq_some_iff.1 htop).2
  have hshares : (samples.map (·.share n)).map bytesOf = bytes.map (· / n) := by
    rw [hbytes, List.map_map, List.map_map]
    exact List.map_congr_left fun s _ => bytesOf_share hpos s
  have htotal : bytesOf total = (bytes.map (· / n)).sum := by
    -- the sum stays below the largest figure, which fits in 64 bits
    have hfits : top < wordLimit := by
      have hmem := (List.max?_eq_some_iff.1 htop).1
      rw [hbytes] at hmem
      obtain ⟨s, -, rfl⟩ := List.mem_map.1 hmem
      exact bytesOf_lt s
    rw [bytesOf_combineAll h, hshares]
    unfold saturatedWord
    omega
  rw [← hbytes]
  constructor
  · rw [htotal, hn]
  · exact ⟨top, htop, htotal ▸ hle⟩
  · refine ⟨low, hlow, ?_⟩
    rw [htotal, hn]
    exact lt_sum_shares_add hn hpos (List.min?_eq_some_iff.1 hlow).2
  · intro m hm
    rw [htotal, hn]
    exact sum_shares_same hn hm

lemma lengths_recordedShares (n : ℕ) (raw : List (List ResourceSample)) :
    (recordedShares n raw).map List.length = raw.map List.length := by
  unfold recordedShares
  rw [List.map_map]
  exact List.map_congr_left fun series _ => List.length_map ..

/-- What a run records of its samples is its share of them, also where it has the process for
itself. -/
lemma bytesOf_stopSampling {r : Run} (hsampled : r.setup.settings.sampleResources = true)
    (hshare : r.setup.resourceShare = n) (hpos : 0 < n) (now : ℕ) :
    (r.stopSampling now).resourceSamples.map bytesOf =
      ((r.setup.sampler.series r.setup.host.probe r.runner.clock now).map (·.share n)).map
        bytesOf := by
  unfold Run.stopSampling
  rw [if_pos hsampled]
  dsimp only
  rw [hshare]
  by_cases hseveral : 1 < n
  · rw [if_pos hseveral]
  · obtain rfl : n = 1 := by omega
    rw [if_neg hseveral, List.map_map]
    refine List.map_congr_left fun s _ => ?_
    rw [Function.comp_apply, bytesOf_share hpos, Nat.div_one]

end Shares

/-- The shares of workers add up to one process. If each of some workers records its share of every
sample that it takes, the sum of the series has, at every position up to the end of the shortest one,
exactly the sum of the shares taken there, which is at most the largest figure read there and misses
the least one by less than a byte for each worker; where all have read the same, only the remainder
of the division is lost. Such shares are what the runs of workers record. -/
theorem shares_add_up_to_process (raw : List (List ResourceSample)) (hworkers : raw ≠ [])
    (hsampled : ∀ series ∈ raw, series ≠ []) :
    (∃ shortest, (raw.map List.length).min? = some shortest ∧ 0 < shortest ∧
      (sumSeries (recordedShares raw.length raw)).length = shortest ∧
      ∀ i < shortest, ∃ total, (sumSeries (recordedShares raw.length raw))[i]? = some total ∧
        (samplesAt raw i).length = raw.length ∧
        SharesAddUp ((samplesAt raw i).map bytesOf) (bytesOf total)) ∧
    ∀ (r : Run) (now : ℕ), r.setup.settings.sampleResources = true →
      r.setup.resourceShare = raw.length →
      (r.stopSampling now).resourceSamples.map bytesOf =
        ((r.setup.sampler.series r.setup.host.probe r.runner.clock now).map
          (·.share raw.length)).map bytesOf := by
  have hpos : 0 < raw.length := List.length_pos_of_ne_nil hworkers
  refine ⟨?_, fun r now htaken hshare => bytesOf_stopSampling htaken hshare hpos now⟩
  obtain ⟨shortest, hshortest⟩ : ∃ shortest, (raw.map List.length).min? = some shortest :=
    Option.isSome_iff_exists.1 (List.isSome_min?_of_ne_nil (by simpa using hworkers))
  have hsome : 0 < shortest := by
    obtain ⟨series, hmem, rfl⟩ := List.mem_map.1 (List.min?_eq_some_iff.1 hshortest).1
    exact List.length_pos_of_ne_nil (hsampled series hmem)
  obtain ⟨hlength, htotals⟩ := sumSeries_eq ((congrArg List.min? (lengths_recordedShares _ raw)).trans
    hshortest)
  refine ⟨shortest, hshortest, hsome, hlength, fun i hi => ?_⟩
  obtain ⟨total, htotal, hsum⟩ := htotals i hi
  rw [samplesAt_recordedShares] at hsum
  have hall := length_samplesAt hshortest hi
  exact ⟨total, htotal, hall, sharesAddUp hall hpos hsum⟩

/-- A sample of some memory. -/
def memorySample (bytes : UInt64) : ResourceSample :=
  { (default : ResourceSample) with memoryBytes := bytes }

/-- Three workers of which one has seen as much memory as can be told. -/
def threeSeries : List (List ResourceSample) :=
  [[18446744073709551615, 10, 10], [10, 10], [1, 10]].map (List.map memorySample)

theorem shares_add_up_to_process_three :
    (∃ total, (sumSeries (recordedShares 3 threeSeries))[0]? = some total ∧
      SharesAddUp [18446744073709551615, 10, 1] (bytesOf total)) ∧
    ∃ total, (sumSeries (recordedShares 3 threeSeries))[1]? = some total ∧ bytesOf total = 9 := by
  obtain ⟨⟨shortest, hshortest, -, -, hadds⟩, -⟩ :=
    shares_add_up_to_process threeSeries (by simp [threeSeries]) (by simp [threeSeries])
  obtain rfl : 2 = shortest := Option.some.inj hshortest
  obtain ⟨total, htotal, -, hfirst⟩ := hadds 0 (by decide)
  obtain ⟨total', htotal', -, hsecond⟩ := hadds 1 (by decide)
  exact ⟨⟨total, htotal, hfirst⟩, total', htotal', hsecond.same 10 (by decide)⟩

end LoadTest.Proofs
