import LoadTest.Latency
import LoadTest.Proofs.ExactFigures

/-!
# Percentiles

Without rounding, a percentile is read off a line through the figures in ascending order: it lies
between the two figures next to its position, and a position further on has no lower figure. So the
percentiles of the latencies are in order between the least and the greatest one, as is the mean.
-/

namespace LoadTest.Proofs

/-- A percentile without rounding. -/
abbrev exactPercentile : List ℚ → ℚ → ℚ := @percentile ℚ exactFigures

/-- The distribution of latencies without rounding. -/
abbrev exactLatencies : List ℚ → LatencyStats ℚ := @LatencyStats.ofLatencies ℚ exactFigures

/-! ### The line through the figures -/

/-- Where a percentile stands among `n` figures: at the first one, at the last one or in between, at a
part of a hundred of the way. -/
def position (n : ℕ) (p : ℚ) : ℚ := min (max p 0 / 100 * (n - 1 : ℕ)) (n - 1 : ℕ)

/-- The line through the figures of a list, each at its index. -/
def lineAt (s : List ℚ) (x : ℚ) : ℚ :=
  s.getD ⌊x⌋₊ 0 + (s.getD (⌊x⌋₊ + 1) 0 - s.getD ⌊x⌋₊ 0) * (x - ⌊x⌋₊)

section Line

variable {s t : List ℚ} {x y p q : ℚ} {i j : ℕ}

lemma position_nonneg (n : ℕ) (p : ℚ) : 0 ≤ position n p := by
  unfold position
  positivity

lemma position_le (n : ℕ) (p : ℚ) : position n p ≤ (n - 1 : ℕ) := min_le_right ..

lemma position_mono (n : ℕ) (h : p ≤ q) : position n p ≤ position n q := by
  unfold position
  gcongr

lemma position_of_nonpos (n : ℕ) (h : p ≤ 0) : position n p = 0 := by
  rw [position, max_eq_right h, zero_div, zero_mul]
  exact min_eq_left (Nat.cast_nonneg _)

lemma position_of_hundred_le (n : ℕ) (h : 100 ≤ p) : position n p = (n - 1 : ℕ) := by
  refine min_eq_right (le_mul_of_one_le_left (Nat.cast_nonneg _) ?_)
  rw [one_le_div (by norm_num)]
  exact h.trans (le_max_left p 0)

lemma lineAt_natCast (s : List ℚ) (k : ℕ) : lineAt s k = s.getD k 0 := by
  rw [lineAt, Nat.floor_natCast, sub_self, mul_zero, add_zero]

lemma getD_le_getD (hs : s.Pairwise (· ≤ ·)) (hij : i ≤ j) (hj : j < s.length) :
    s.getD i 0 ≤ s.getD j 0 := by
  rw [List.getD_eq_getElem _ _ (hij.trans_lt hj), List.getD_eq_getElem _ _ hj]
  obtain rfl | hlt := hij.eq_or_lt
  · exact le_rfl
  · exact List.pairwise_iff_getElem.1 hs i j _ hj hlt

lemma getD_last (hne : s ≠ []) : s.getD (s.length - 1) 0 = s.getLast hne := by
  have hlength := List.length_pos_of_ne_nil hne
  rw [List.getD_eq_getElem _ _ (by omega), List.getLast_eq_getElem]

lemma headD_eq (hne : s ≠ []) (x : ℚ) : s.headD x = s.head hne := by
  rw [List.headD_eq_head?, List.head?_eq_some_head hne, Option.getD_some]

lemma getLastD_eq (hne : s ≠ []) (x : ℚ) : s.getLastD x = s.getLast hne := by
  rw [List.getLastD_eq_getLast?, List.getLast?_eq_some_getLast hne, Option.getD_some]

lemma head_le_of_mem (hs : s.Pairwise (· ≤ ·)) (hne : s ≠ []) (hx : x ∈ s) : s.head hne ≤ x := by
  obtain ⟨i, hi, rfl⟩ := List.getElem_of_mem hx
  have hle := getD_le_getD hs i.zero_le hi
  rwa [List.getD_eq_getElem _ _ hi, List.getD_eq_getElem _ _ (i.zero_le.trans_lt hi),
    ← List.head_eq_getElem hne] at hle

lemma le_getLast_of_mem (hs : s.Pairwise (· ≤ ·)) (hne : s ≠ []) (hx : x ∈ s) :
    x ≤ s.getLast hne := by
  obtain ⟨i, hi, rfl⟩ := List.getElem_of_mem hx
  have hle := getD_le_getD hs (show i ≤ s.length - 1 by omega) (by omega)
  rwa [List.getD_eq_getElem _ _ hi, getD_last hne] at hle

/-- Between two indices the line stays between their figures. -/
lemma lineAt_between (hs : s.Pairwise (· ≤ ·)) (hx : 0 ≤ x) (hlast : x ≤ (s.length - 1 : ℕ)) :
    s.getD ⌊x⌋₊ 0 ≤ lineAt s x ∧ lineAt s x ≤ s.getD ⌈x⌉₊ 0 := by
  obtain heq | hlt := (Nat.floor_le hx).eq_or_lt
  · rw [← heq, lineAt_natCast, Nat.floor_natCast, Nat.ceil_natCast]
    exact ⟨le_rfl, le_rfl⟩
  · have hceil : ⌈x⌉₊ = ⌊x⌋₊ + 1 := by
      rw [Nat.ceil_eq_iff (by omega)]
      refine ⟨by simpa using hlt, ?_⟩
      push_cast
      exact (Nat.lt_floor_add_one x).le
    have hinside : ⌊x⌋₊ + 1 < s.length := by
      have hbefore : ⌊x⌋₊ < s.length - 1 := by exact_mod_cast hlt.trans_le hlast
      omega
    have hrise := getD_le_getD hs ⌊x⌋₊.le_succ hinside
    have hone : x - ⌊x⌋₊ ≤ 1 := by
      have hnext := Nat.lt_floor_add_one x
      linarith
    rw [hceil]
    constructor
    · exact le_add_of_nonneg_right (mul_nonneg (sub_nonneg.2 hrise) (sub_nonneg.2 hlt.le))
    · have hpart := mul_le_of_le_one_right (sub_nonneg.2 hrise) hone
      unfold lineAt
      linarith

/-- The line never falls: within a segment it rises with its slope, and two segments are apart by
the figure between them. -/
lemma lineAt_mono (hs : s.Pairwise (· ≤ ·)) (hx : 0 ≤ x) (hxy : x ≤ y)
    (hlast : y ≤ (s.length - 1 : ℕ)) (hne : s ≠ []) : lineAt s x ≤ lineAt s y := by
  have hlength := List.length_pos_of_ne_nil hne
  obtain hsame | hapart := (Nat.floor_mono hxy).eq_or_lt
  · by_cases hinside : ⌊x⌋₊ + 1 < s.length
    · have hrise := getD_le_getD hs ⌊x⌋₊.le_succ hinside
      unfold lineAt
      rw [← hsame]
      gcongr
    · -- Past the last figure there is no segment, and both positions are at that figure.
      have hend : s.length - 1 ≤ ⌊x⌋₊ := by omega
      have hyx : y ≤ x := (hlast.trans (by exact_mod_cast hend)).trans (Nat.floor_le hx)
      rw [le_antisymm hxy hyx]
  · have hceil : ⌈x⌉₊ ≤ ⌊y⌋₊ := (Nat.ceil_le_floor_add_one x).trans hapart
    have hfloor : ⌊y⌋₊ < s.length := by
      have hle : ⌊y⌋₊ ≤ s.length - 1 := Nat.floor_le_of_le hlast
      omega
    calc lineAt s x ≤ s.getD ⌈x⌉₊ 0 := (lineAt_between hs hx (hxy.trans hlast)).2
      _ ≤ s.getD ⌊y⌋₊ 0 := getD_le_getD hs hceil hfloor
      _ ≤ lineAt s y := (lineAt_between hs (hx.trans hxy) hlast).1

lemma getD_le_of_forall₂ (h : List.Forall₂ (· ≤ ·) s t) (i : ℕ) : s.getD i 0 ≤ t.getD i 0 := by
  induction h generalizing i with
  | nil => exact le_rfl
  | cons hhead _ ih =>
    cases i with
    | zero => exact hhead
    | succ i => exact ih i

/-- Raising figures raises the line, which at each position is a weighted mean of two of them. -/
lemma lineAt_le_of_forall₂ (h : List.Forall₂ (· ≤ ·) s t) (hx : 0 ≤ x) :
    lineAt s x ≤ lineAt t x := by
  have hweights (l : List ℚ) : lineAt l x =
      l.getD ⌊x⌋₊ 0 * (⌊x⌋₊ + 1 - x) + l.getD (⌊x⌋₊ + 1) 0 * (x - ⌊x⌋₊) := by
    unfold lineAt
    ring
  have hlower : 0 ≤ ⌊x⌋₊ + 1 - x := sub_nonneg.2 (Nat.lt_floor_add_one x).le
  have hupper : 0 ≤ x - ⌊x⌋₊ := sub_nonneg.2 (Nat.floor_le hx)
  rw [hweights, hweights]
  gcongr
  · exact getD_le_of_forall₂ h _
  · exact getD_le_of_forall₂ h _

end Line

/-! ### Percentiles of figures in ascending order -/

section Percentile

variable {s t : List ℚ}

/-- A percentile is on the line through the figures, at its position. -/
lemma exactPercentile_eq (hne : s ≠ []) (hcount : s.length ≤ wordLimit) (p : ℚ) :
    exactPercentile s p = lineAt s (position s.length p) := by
  have hlength := List.length_pos_of_ne_nil hne
  unfold exactPercentile percentile
  rw [exact_atLeast_zero]
  set last := s.length - 1
  set x := max p 0 / 100 * (last : ℚ)
  change (if last ≤ saturatedWord ⌊x⌋₊ then s.getLastD ((0 : ℕ) : ℚ) else _) = _
  have hword : last ≤ saturatedWord ⌊x⌋₊ ↔ last ≤ ⌊x⌋₊ := by
    unfold saturatedWord
    omega
  have hx : 0 ≤ x := by positivity
  by_cases hend : last ≤ ⌊x⌋₊
  · have hposition : position s.length p = last := min_eq_right ((Nat.le_floor_iff hx).1 hend)
    rw [if_pos (hword.2 hend), hposition, lineAt_natCast, getD_last hne]
    exact getLastD_eq hne _
  · have hposition : position s.length p = x := min_eq_left ((Nat.floor_lt hx).1 (not_le.1 hend)).le
    have hwhole : saturatedWord ⌊x⌋₊ = ⌊x⌋₊ := by
      unfold saturatedWord
      omega
    rw [if_neg (mt hword.1 hend), hposition]
    change s.getD (saturatedWord ⌊x⌋₊) ((0 : ℕ) : ℚ) +
      (s.getD (saturatedWord ⌊x⌋₊ + 1) ((0 : ℕ) : ℚ) - s.getD (saturatedWord ⌊x⌋₊) ((0 : ℕ) : ℚ)) *
        (x - (saturatedWord ⌊x⌋₊ : ℕ)) = lineAt s x
    rw [hwhole, Nat.cast_zero, lineAt]

/-- What the percentiles of figures in ascending order keep to, the position of a percentile being
its rank. -/
structure PercentilesOrdered (s : List ℚ) (hne : s ≠ []) : Prop where
  monotone : Monotone (exactPercentile s)
  within (p : ℚ) : s.head hne ≤ exactPercentile s p ∧ exactPercentile s p ≤ s.getLast hne
  bracketed (p : ℚ) :
    ∃ (_ : ⌊position s.length p⌋₊ < s.length) (_ : ⌈position s.length p⌉₊ < s.length),
      s[⌊position s.length p⌋₊] ≤ exactPercentile s p ∧
        exactPercentile s p ≤ s[⌈position s.length p⌉₊]
  first {p : ℚ} : p ≤ 0 → exactPercentile s p = s.head hne
  last {p : ℚ} : 100 ≤ p → exactPercentile s p = s.getLast hne
  raised {t : List ℚ} (p : ℚ) :
    List.Forall₂ (· ≤ ·) s t → exactPercentile s p ≤ exactPercentile t p

lemma percentilesOrdered (hs : s.Pairwise (· ≤ ·)) (hne : s ≠ []) (hcount : s.length ≤ wordLimit) :
    PercentilesOrdered s hne := by
  have hlength := List.length_pos_of_ne_nil hne
  have hmono : Monotone (exactPercentile s) := by
    intro p q hpq
    rw [exactPercentile_eq hne hcount, exactPercentile_eq hne hcount]
    exact lineAt_mono hs (position_nonneg _ p) (position_mono _ hpq) (position_le _ q) hne
  have hfirst {p : ℚ} (hp : p ≤ 0) : exactPercentile s p = s.head hne := by
    rw [exactPercentile_eq hne hcount, position_of_nonpos _ hp, ← Nat.cast_zero, lineAt_natCast,
      List.getD_eq_getElem _ _ hlength, List.head_eq_getElem]
  have hlast {p : ℚ} (hp : 100 ≤ p) : exactPercentile s p = s.getLast hne := by
    rw [exactPercentile_eq hne hcount, position_of_hundred_le _ hp, lineAt_natCast, getD_last hne]
  refine ⟨hmono, fun p => ⟨?_, ?_⟩, fun p => ?_, hfirst, hlast, fun {t} p hraised => ?_⟩
  · exact (hfirst (min_le_right p 0)).symm.trans_le (hmono (min_le_left p 0))
  · exact (hmono (le_max_left p 100)).trans_eq (hlast (le_max_right p 100))
  · have hupper : ⌈position s.length p⌉₊ < s.length := by
      have hle : ⌈position s.length p⌉₊ ≤ s.length - 1 := Nat.ceil_le.2 (position_le _ p)
      omega
    have hlower := (Nat.floor_le_ceil (position s.length p)).trans_lt hupper
    refine ⟨hlower, hupper, ?_⟩
    rw [exactPercentile_eq hne hcount, ← List.getD_eq_getElem s 0 hlower,
      ← List.getD_eq_getElem s 0 hupper]
    exact lineAt_between hs (position_nonneg _ p) (position_le _ p)
  · have hsame := hraised.length_eq
    have hne' : t ≠ [] := List.ne_nil_of_length_pos (hsame ▸ hlength)
    rw [exactPercentile_eq hne hcount, exactPercentile_eq hne' (hsame ▸ hcount), ← hsame]
    exact lineAt_le_of_forall₂ hraised (position_nonneg _ p)

end Percentile

/-! ### The distribution of latencies -/

section Latencies

variable {l : List ℚ}

/-- The latencies in ascending order. -/
abbrev inOrder (l : List ℚ) : List ℚ := l.mergeSort fun x y => decide (x ≤ y)

lemma pairwise_inOrder (l : List ℚ) : (inOrder l).Pairwise (· ≤ ·) := by
  have htrans (x y z : ℚ) : decide (x ≤ y) = true → decide (y ≤ z) = true →
      decide (x ≤ z) = true := by
    simpa using le_trans
  have htotal (x y : ℚ) : (decide (x ≤ y) || decide (y ≤ x)) = true := by
    simpa using le_total x y
  exact (List.pairwise_mergeSort htrans htotal l).imp of_decide_eq_true

/-- What the figures of some latencies keep to. -/
structure LatenciesOrdered (latencies : List ℚ) (stats : LatencyStats ℚ) : Prop where
  least : stats.least ∈ latencies ∧ ∀ x ∈ latencies, stats.least ≤ x
  greatest : stats.greatest ∈ latencies ∧ ∀ x ∈ latencies, x ≤ stats.greatest
  percentiles : stats.least ≤ stats.p50 ∧ stats.p50 ≤ stats.p90 ∧ stats.p90 ≤ stats.p95 ∧
    stats.p95 ≤ stats.p99 ∧ stats.p99 ≤ stats.greatest
  mean : stats.least ≤ stats.mean ∧ stats.mean ≤ stats.greatest

lemma latenciesOrdered (hne : l ≠ []) (hcount : l.length ≤ wordLimit) :
    LatenciesOrdered l (exactLatencies l) := by
  have hperm : (inOrder l).Perm l := List.mergeSort_perm ..
  have hne' : inOrder l ≠ [] := mt (fun h => (h ▸ hperm).nil_eq.symm) hne
  have hsorted := pairwise_inOrder l
  have hordered := percentilesOrdered hsorted hne' (hperm.length_eq ▸ hcount)
  have hstats : exactLatencies l = _ := if_neg (mt List.isEmpty_iff.1 hne)
  have hleast : (exactLatencies l).least = (inOrder l).head hne' := by
    rw [hstats]
    exact headD_eq hne' _
  have hgreatest : (exactLatencies l).greatest = (inOrder l).getLast hne' := by
    rw [hstats]
    exact getLastD_eq hne' _
  have hmean : (exactLatencies l).mean = exactMean (inOrder l) := by
    rw [hstats]
    rfl
  have hpercentiles : (exactLatencies l).p50 = exactPercentile (inOrder l) (50 : ℕ) ∧
      (exactLatencies l).p90 = exactPercentile (inOrder l) (90 : ℕ) ∧
      (exactLatencies l).p95 = exactPercentile (inOrder l) (95 : ℕ) ∧
      (exactLatencies l).p99 = exactPercentile (inOrder l) (99 : ℕ) := by
    rw [hstats]
    exact ⟨rfl, rfl, rfl, rfl⟩
  obtain ⟨h50, h90, h95, h99⟩ := hpercentiles
  constructor
  case least =>
    rw [hleast]
    exact ⟨hperm.mem_iff.1 (List.head_mem hne'),
      fun x hx => head_le_of_mem hsorted hne' (hperm.mem_iff.2 hx)⟩
  case greatest =>
    rw [hgreatest]
    exact ⟨hperm.mem_iff.1 (List.getLast_mem hne'),
      fun x hx => le_getLast_of_mem hsorted hne' (hperm.mem_iff.2 hx)⟩
  case percentiles =>
    rw [hleast, hgreatest, h50, h90, h95, h99]
    exact ⟨(hordered.within _).1, hordered.monotone (by norm_num), hordered.monotone (by norm_num),
      hordered.monotone (by norm_num), (hordered.within _).2⟩
  case mean =>
    rw [hleast, hgreatest, hmean]
    exact exactMean_between hne' (fun x => head_le_of_mem hsorted hne')
      (fun x => le_getLast_of_mem hsorted hne')

end Latencies

/-- Percentiles are ordered. Of figures in ascending order a higher percentile is no lower, each one
lies between the figures next to its rank, the first and the last figure are at the ends, and raising
figures lowers none. Of latencies in any order the percentiles stand in order between the least and
the greatest one, as does the mean. The figures are no more than words can count, for a rank is cut
off to a word. -/
theorem percentiles_ordered (s : List ℚ) (hne : s ≠ []) (hcount : s.length ≤ wordLimit) :
    (s.Pairwise (· ≤ ·) → PercentilesOrdered s hne) ∧ LatenciesOrdered s (exactLatencies s) :=
  ⟨fun hs => percentilesOrdered hs hne hcount, latenciesOrdered hne hcount⟩

/-- Three figures of which two are equal, with unequal steps between them, and the same ones out of
order. -/
theorem percentiles_ordered_three :
    PercentilesOrdered [1, 1, 4] (List.cons_ne_nil _ _) ∧
      LatenciesOrdered [4, 1, 1] (exactLatencies [4, 1, 1]) :=
  ⟨(percentiles_ordered [1, 1, 4] (List.cons_ne_nil _ _) (by decide)).1 (by decide),
    (percentiles_ordered [4, 1, 1] (List.cons_ne_nil _ _) (by decide)).2⟩

end LoadTest.Proofs
