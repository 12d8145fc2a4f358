import LoadTest.Resource
import LoadTest.Proofs.ExactFigures

/-!
# Memory leaks

A leak is suspected if memory grew by more than a threshold over a series of samples, in the mean of
a window at either end. The two windows are of one width, which the series always has; in a short
series they overlap, or are the same. Where memory never increases, each sample of the last window
stands against an earlier one of the first window that is no smaller, so that no leak is suspected.
-/

namespace LoadTest.Proofs

/-- The leak report of a series in some arithmetic. On floats it is `LeakReport.ofSamples?`. -/
abbrev leakReport? (α : Type) [Scalar α] (samples : List ResourceSample) (window : ℕ)
    (threshold : UInt64) : Option (LeakReport α) :=
  LeakReport.detect? (samples.map ResourceSample.memoryBytes) window threshold

abbrev exactLeakReport? : List ResourceSample → ℕ → UInt64 → Option (LeakReport ℚ) :=
  @leakReport? ℚ exactFigures

/-- How many samples at either end of a series are compared. -/
def comparedWidth (window length : ℕ) : ℕ := min (max window 1) length

/-- The first and the last `width` entries of a list. They may overlap. -/
structure Ends {β : Type} (width : ℕ) (l first last : List β) : Prop where
  opens : first <+: l
  closes : last <:+ l
  first_length : first.length = width
  last_length : last.length = width

/-- The memory of some samples as figures of an arithmetic. -/
def memoryFigures (α : Type) [Scalar α] (samples : List ResourceSample) : List α :=
  samples.map fun s => Scalar.ofCount s.memoryBytes.toNat

/-- A report compares the mean memory of some last samples with that of some first ones. -/
structure Compares {α : Type} [Scalar α] (threshold : UInt64) (first last : List ResourceSample)
    (report : LeakReport α) : Prop where
  initial : report.initialMeanBytes = mean (memoryFigures α first)
  final : report.finalMeanBytes = mean (memoryFigures α last)
  growth : report.growthBytes = report.finalMeanBytes - report.initialMeanBytes
  suspected : report.suspected = true ↔ Scalar.ofCount threshold.toNat < report.growthBytes

def memorySum (samples : List ResourceSample) : ℕ :=
  (samples.map fun s => s.memoryBytes.toNat).sum

def NeverIncreases (samples : List ResourceSample) : Prop :=
  samples.IsChain fun a b => b.memoryBytes ≤ a.memoryBytes

/-! ### The two windows -/

section Windows

variable {β : Type} {l first last : List β} {width window length : ℕ}

lemma comparedWidth_le : comparedWidth window length ≤ length := min_le_right ..

lemma comparedWidth_pos (h : 0 < length) : 0 < comparedWidth window length :=
  lt_min (lt_max_of_lt_right one_pos) h

lemma comparedWidth_of_le (h : length ≤ window) : comparedWidth window length = length :=
  min_eq_right (h.trans (le_max_left ..))

lemma ends_of_le (h : width ≤ l.length) :
    Ends width l (l.take width) (l.drop (l.length - width)) where
  opens := List.take_prefix ..
  closes := List.drop_suffix ..
  first_length := List.length_take_of_le h
  last_length := by
    rw [List.length_drop]
    omega

namespace Ends

lemma first_eq (h : Ends width l first last) : first = l.take width := by
  rw [← h.first_length]
  exact List.prefix_iff_eq_take.1 h.opens

lemma last_eq (h : Ends width l first last) : last = l.drop (l.length - width) := by
  rw [← h.last_length]
  exact List.suffix_iff_eq_drop.1 h.closes

lemma width_le (h : Ends width l first last) : width ≤ l.length := by
  rw [← h.first_length]
  exact h.opens.length_le

/-- Of a list as long as its ends, each of them is the whole. -/
lemma eq_of_length_le (h : Ends width l first last) (hlength : l.length ≤ width) :
    first = last := by
  obtain rfl : width = l.length := le_antisymm h.width_le hlength
  rw [h.first_eq, h.last_eq, List.take_length, Nat.sub_self, List.drop_zero]

end Ends

end Windows

/-! ### Memory that never increases -/

section Monotone

variable {samples first last : List ResourceSample} {width : ℕ}

lemma NeverIncreases.pairwise (h : NeverIncreases samples) :
    samples.Pairwise fun a b => b.memoryBytes ≤ a.memoryBytes := by
  have : IsTrans ResourceSample fun a b => b.memoryBytes ≤ a.memoryBytes :=
    ⟨fun _ _ _ hab hbc => UInt64.le_trans hbc hab⟩
  exact List.isChain_iff_pairwise.1 h

/-- The sample at some place of the last window is no larger than that of the first window. -/
lemma NeverIncreases.forall₂ (h : NeverIncreases samples) (hends : Ends width samples first last) :
    List.Forall₂ (fun b a => b.memoryBytes ≤ a.memoryBytes) last first := by
  refine List.forall₂_iff_get.2 ⟨hends.last_length.trans hends.first_length.symm, ?_⟩
  intro i hlast hfirst
  obtain rfl := hends.first_eq
  obtain rfl := hends.last_eq
  simp only [List.get_eq_getElem, List.getElem_take, List.getElem_drop]
  obtain hshift | hshift := Nat.eq_zero_or_pos (samples.length - width)
  · simp [hshift]
  · exact List.pairwise_iff_getElem.1 h.pairwise _ _ _ _ (by omega)

lemma NeverIncreases.memorySum_le (h : NeverIncreases samples)
    (hends : Ends width samples first last) : memorySum last ≤ memorySum first := by
  refine List.Forall₂.sum_le_sum ?_
  rw [List.forall₂_map_left_iff, List.forall₂_map_right_iff]
  exact (h.forall₂ hends).imp fun _ _ hle => UInt64.le_iff_toNat_le.1 hle

end Monotone

/-! ### The report -/

section Report

variable {α : Type} [Scalar α] {samples first last : List ResourceSample} {window width : ℕ}
  {threshold : UInt64}

lemma leakReport?_eq_none : leakReport? α samples window threshold = none ↔ samples = [] := by
  unfold leakReport? LeakReport.detect?
  cases samples with
  | nil => simp
  | cons => simp

lemma exists_leakReport (α : Type) [Scalar α] (window : ℕ) (threshold : UInt64)
    (hne : samples ≠ []) : ∃ report first last,
    leakReport? α samples window threshold = some report ∧
      Ends (comparedWidth window samples.length) samples first last ∧
      0 < comparedWidth window samples.length ∧ Compares threshold first last report := by
  have hmemory : (samples.map ResourceSample.memoryBytes).isEmpty = false := by simpa using hne
  unfold leakReport? LeakReport.detect?
  rw [hmemory]
  refine ⟨_, _, _, rfl, ends_of_le comparedWidth_le,
    comparedWidth_pos (List.length_pos_of_ne_nil hne), ?_, ?_, rfl, decide_eq_true_iff⟩
  · simp [memoryFigures, comparedWidth, List.map_take, Function.comp_def]
  · simp [memoryFigures, comparedWidth, List.map_drop, Function.comp_def]

end Report

section Exact

variable {samples first last : List ResourceSample} {window width : ℕ} {threshold : UInt64}
  {report : LeakReport ℚ}

lemma exactMean_memoryFigures (samples : List ResourceSample) :
    exactMean (@memoryFigures ℚ exactFigures samples) =
      (memorySum samples : ℚ) / samples.length := by
  rw [exactMean_eq, memorySum, Nat.cast_list_sum, List.map_map, memoryFigures, List.length_map]
  rfl

/-- Without rounding, memory grew by the difference of the two sums over the width of a window. -/
lemma growthBytes_eq (hends : Ends width samples first last)
    (h : @Compares ℚ exactFigures threshold first last report) :
    report.growthBytes = ((memorySum last : ℚ) - memorySum first) / width := by
  obtain ⟨hinitial, hfinal, hgrowth, -⟩ := h
  rw [hinitial, hfinal] at hgrowth
  have hmeans : report.growthBytes = exactMean (@memoryFigures ℚ exactFigures last) -
      exactMean (@memoryFigures ℚ exactFigures first) := hgrowth
  rw [hmeans, exactMean_memoryFigures, exactMean_memoryFigures, hends.first_length,
    hends.last_length, sub_div]

lemma suspected_iff (hends : Ends width samples first last) (hwidth : 0 < width)
    (h : @Compares ℚ exactFigures threshold first last report) :
    report.suspected = true ↔ memorySum first + width * threshold.toNat < memorySum last := by
  have hsuspected : report.suspected = true ↔ (threshold.toNat : ℚ) < report.growthBytes := by
    obtain ⟨-, -, -, hsuspected⟩ := h
    exact hsuspected
  have hpositive : (0 : ℚ) < width := Nat.cast_pos.2 hwidth
  rw [hsuspected, growthBytes_eq hends h, lt_div_iff₀ hpositive, lt_sub_iff_add_lt',
    mul_comm]
  exact_mod_cast Iff.rfl

end Exact

/-- A leak report exists exactly for a series that is not empty, and compares the means of two
windows at its ends, both of the width asked for as far as the series has it and at least of one
sample. Without rounding, a leak is suspected exactly if the last window sums up to more than the
first one by the threshold for each of its samples. So no leak is suspected where memory never
increases, and memory has not grown over a series no longer than the window. -/
theorem leak_judged (samples : List ResourceSample) (window : ℕ) (threshold : UInt64) :
    LeakReport.ofSamples? samples window threshold = leakReport? Float samples window threshold ∧
    (∀ (α : Type) [Scalar α], leakReport? α samples window threshold = none ↔ samples = []) ∧
    (∀ (α : Type) [Scalar α], samples ≠ [] → ∃ report first last,
      leakReport? α samples window threshold = some report ∧
      Ends (comparedWidth window samples.length) samples first last ∧
      0 < comparedWidth window samples.length ∧ Compares threshold first last report) ∧
    ∀ report, exactLeakReport? samples window threshold = some report →
      (NeverIncreases samples → report.suspected = false) ∧
      (samples.length ≤ window → report.growthBytes = 0) ∧
      ∀ first last, Ends (comparedWidth window samples.length) samples first last →
        (report.suspected = true ↔
          memorySum first + comparedWidth window samples.length * threshold.toNat <
            memorySum last) := by
  refine ⟨rfl, fun α _ => leakReport?_eq_none,
    fun α _ hne => exists_leakReport α window threshold hne, fun report hreport => ?_⟩
  have hne : samples ≠ [] := by
    rintro rfl
    cases hreport
  obtain ⟨report', first, last, hreport', hends, hwidth, hcompares⟩ :=
    @exists_leakReport samples ℚ exactFigures window threshold hne
  obtain rfl : report' = report := Option.some.inj (hreport'.symm.trans hreport)
  have hsuspected := suspected_iff hends hwidth hcompares
  refine ⟨fun hnever => ?_, fun hshort => ?_, fun first' last' hends' => ?_⟩
  · rw [← Bool.not_eq_true, hsuspected]
    have hle := hnever.memorySum_le hends
    omega
  · rw [growthBytes_eq hends hcompares,
      hends.eq_of_length_le (comparedWidth_of_le hshort).ge, sub_self, zero_div]
  · rw [hends'.first_eq, hends'.last_eq, ← hends.first_eq, ← hends.last_eq]
    exact hsuspected

def samplesOf (memory : List UInt64) : List ResourceSample :=
  memory.map fun memoryBytes => { (default : ResourceSample) with memoryBytes }

/-- A series that grows and one that does not, each with windows that overlap. -/
theorem leak_judged_overlapping :
    (∃ report first last, exactLeakReport? (samplesOf [100, 120, 150, 210]) 3 30 = some report ∧
      Ends 3 (samplesOf [100, 120, 150, 210]) first last ∧
      memorySum first = 370 ∧ memorySum last = 480 ∧ report.suspected = true) ∧
    NeverIncreases (samplesOf [150, 120, 120]) ∧
    ∃ report, exactLeakReport? (samplesOf [150, 120, 120]) 2 0 = some report ∧
      report.suspected = false := by
  constructor
  · obtain ⟨-, -, hexists, hexact⟩ := leak_judged (samplesOf [100, 120, 150, 210]) 3 30
    obtain ⟨report, first, last, hreport, hends, -⟩ := @hexists ℚ exactFigures (by simp [samplesOf])
    have hfirst : memorySum first = 370 := by
      rw [hends.first_eq]
      rfl
    have hlast : memorySum last = 480 := by
      rw [hends.last_eq]
      rfl
    refine ⟨report, first, last, hreport, hends, hfirst, hlast, ?_⟩
    rw [(hexact report hreport).2.2 first last hends, hfirst, hlast]
    decide
  · have hnever : NeverIncreases (samplesOf [150, 120, 120]) := by
      simp [NeverIncreases, samplesOf]
    obtain ⟨-, -, hexists, hexact⟩ := leak_judged (samplesOf [150, 120, 120]) 2 0
    obtain ⟨report, -, -, hreport, -⟩ := @hexists ℚ exactFigures (by simp [samplesOf])
    exact ⟨hnever, report, hreport, (hexact report hreport).1 hnever⟩

end LoadTest.Proofs
