import LoadTest.Proofs.ConfigValidation
import LoadTest.Proofs.ThroughputWindows

/-!
# How wide a window may be

A window of the throughput has a width in whole milliseconds, of which validation asks only that it
is not zero. The width is taken as a signed number of 64 bits, so one of `2 ^ 63` milliseconds or
more is negative. With such a width, of `ms` milliseconds, a request falls into the first window if
it ended fewer than `2 ^ 64 - ms` milliseconds after the earliest start. One that ended later falls
into a window of negative number, and the throughput is lost.
-/

namespace LoadTest.Proofs

/-- Whole milliseconds from `origin` to the end of a request; none if it ended before. -/
def millisAfter (origin : Timestamp) (o : Outcome) : ℕ :=
  (max 0 ((o.endedAt.nanosSince origin).tdiv 1000000)).toNat

/-- Whole milliseconds from `origin` to the end that lies furthest from it. -/
def spanMillis (origin : Timestamp) (outcomes : List Outcome) : ℕ :=
  (outcomes.map (millisAfter origin)).foldl max 0

/-- Some request ended so late that a window of `ms` milliseconds from then on would end beyond 64
bits, counted from the earliest start. -/
def WrapsAround (ms : UInt64) (outcomes : List Outcome) : Prop :=
  ∃ origin, Timestamp.earliest? (outcomes.map Outcome.startedAt) = some origin ∧
    ∃ o ∈ outcomes, 2 ^ 64 ≤ ms.toNat + millisAfter origin o

/-- What a throughput in windows of `ms` milliseconds tells: it has no more windows than there are
milliseconds between the earliest start and the furthest end, and one more. Each takes up a word of
memory, and together they are fewer bytes than a list may have. -/
structure CountedIn (ms : ℕ) (outcomes : List Outcome) (stats : ThroughputStats) : Prop where
  width : stats.windowMillis = ms
  empty : outcomes = [] → stats.windows = 0
  spanned : ∀ origin, Timestamp.earliest? (outcomes.map Outcome.startedAt) = some origin →
    stats.windows ≤ 1 + spanMillis origin outcomes
  latest : ∀ origin last, Timestamp.earliest? (outcomes.map Outcome.startedAt) = some origin →
    last ∈ outcomes → (∀ o ∈ outcomes, o.endedAt.before last.endedAt = true) →
    origin.isLeap = false → (∀ o ∈ outcomes, o.endedAt.isLeap = false) →
    stats.windows ≤ 1 + millisAfter origin last
  addressable : 8 * stats.windows < 2 ^ 63

section Spans

variable {origin : Timestamp} {outcomes : List Outcome} {o last : Outcome}

lemma millisAfter_lt (origin : Timestamp) (o : Outcome) : millisAfter origin o < 2 ^ 54 := by
  obtain ⟨hfirst, -, -⟩ := origin.valid
  obtain ⟨-, hlast, hnanos⟩ := o.endedAt.valid
  have hspan : o.endedAt.nanosSince origin ≤ (2 ^ 54 - 1) * 1000000 := by
    unfold firstSecond at hfirst
    unfold lastSecond at hlast
    unfold Timestamp.nanosSince Timestamp.toNanos
    dsimp only
    split_ifs <;> omega
  have hmillis := Int.tdiv_le_tdiv (c := 1000000) (by decide) hspan
  rw [Int.mul_tdiv_cancel _ (by decide)] at hmillis
  unfold millisAfter
  omega

lemma millisAfter_le_span (origin : Timestamp) (h : o ∈ outcomes) :
    millisAfter origin o ≤ spanMillis origin outcomes := by
  have hmem : millisAfter origin o ∈ outcomes.map (millisAfter origin) := List.mem_map_of_mem h
  exact (foldl_max_mem (List.ne_nil_of_mem hmem)).2 _ hmem

lemma nanosSince_plain {t : Timestamp} (ht : t.isLeap = false) (horigin : origin.isLeap = false) :
    t.nanosSince origin = t.toNanos - origin.toNanos := by
  simp [Timestamp.nanosSince, ht, horigin]

/-- Without leap seconds the end that lies furthest is the latest. -/
lemma millisAfter_le_latest (hlatest : o.endedAt.before last.endedAt = true)
    (horigin : origin.isLeap = false) (ho : o.endedAt.isLeap = false)
    (hlast : last.endedAt.isLeap = false) : millisAfter origin o ≤ millisAfter origin last := by
  have hnanos : o.endedAt.toNanos ≤ last.endedAt.toNanos := by
    simp only [Timestamp.before, Bool.or_eq_true, Bool.and_eq_true, decide_eq_true_eq] at hlatest
    simp only [Timestamp.isLeap, decide_eq_false_iff_not] at ho
    unfold Timestamp.toNanos
    omega
  have hmillis : (o.endedAt.nanosSince origin).tdiv 1000000 ≤
      (last.endedAt.nanosSince origin).tdiv 1000000 := by
    rw [nanosSince_plain ho horigin, nanosSince_plain hlast horigin]
    apply Int.tdiv_le_tdiv (by decide)
    omega
  unfold millisAfter
  omega

end Spans

section Widths

variable {ms : UInt64} {origin : Timestamp}

lemma millis_ofMillis (ms : UInt64) : (Duration.ofMillis ms).millis = ms.toNat := by
  unfold Duration.millis Duration.ofMillis
  dsimp only
  omega

lemma signedWidth_wide (h : 2 ^ 63 ≤ ms.toNat) :
    ThroughputStats.signedWidth (.ofMillis ms) = -((2 ^ 64 - ms.toNat : ℕ) : ℤ) := by
  have hlt := ms.toNat_lt
  unfold ThroughputStats.signedWidth wordLimit
  rw [millis_ofMillis, Int.bmod_def]
  omega

/-- The number of a window is the one that its width asks for, unless it wraps around. -/
lemma windowOf_ofMillis (hms : ms ≠ 0) (origin : Timestamp) (o : Outcome) :
    ThroughputStats.windowOf origin (ThroughputStats.signedWidth (.ofMillis ms)) o =
      if 2 ^ 64 ≤ ms.toNat + millisAfter origin o then .error .tooLarge
      else .ok (windowNumber origin ms.toNat o) := by
  have hlt := ms.toNat_lt
  have hafter := millisAfter_lt origin o
  have hpos : 0 < ms.toNat := UInt64.pos_iff_ne_zero.2 hms
  by_cases hwide : 2 ^ 63 ≤ ms.toNat
  · have hoffset : max 0 ((o.endedAt.nanosSince origin).tdiv 1000000) = (millisAfter origin o : ℤ) :=
      (Int.toNat_of_nonneg (le_max_left _ _)).symm
    have hindex : (millisAfter origin o : ℤ).tdiv (-((2 ^ 64 - ms.toNat : ℕ) : ℤ)) =
        -((millisAfter origin o / (2 ^ 64 - ms.toNat) : ℕ) : ℤ) := by
      rw [Int.tdiv_neg, ← Int.ofNat_tdiv]
    have hfirst : windowNumber origin ms.toNat o = 0 := Nat.div_eq_of_lt (by omega)
    unfold ThroughputStats.windowOf
    dsimp only
    rw [signedWidth_wide hwide, hoffset, hindex, if_neg (by omega), hfirst]
    by_cases hwraps : 2 ^ 64 ≤ ms.toNat + millisAfter origin o
    · have hquotient : 0 < millisAfter origin o / (2 ^ 64 - ms.toNat) :=
        Nat.div_pos (by omega) (by omega)
      rw [if_pos (by omega), if_pos hwraps]
    · rw [Nat.div_eq_of_lt (by omega), if_neg hwraps]
      rfl
  · rw [if_neg (by omega), windowOf_eq (by rw [millis_ofMillis]; omega), millis_ofMillis,
      Nat.max_eq_right hpos]

lemma signedWidth_word (hms : ms ≠ 0) :
    (ThroughputStats.signedWidth (.ofMillis ms) % wordLimit).toNat = ms.toNat := by
  have hlt := ms.toNat_lt
  have hpos : 0 < ms.toNat := UInt64.pos_iff_ne_zero.2 hms
  unfold ThroughputStats.signedWidth
  rw [Int.bmod_emod, millis_ofMillis, wordLimit]
  omega

/-- There are numbers for the windows of some outcomes, unless one wraps around. -/
lemma mapM_windowOf (hms : ms ≠ 0) (origin : Timestamp) (outcomes : List Outcome) :
    outcomes.mapM (ThroughputStats.windowOf origin (ThroughputStats.signedWidth (.ofMillis ms))) =
      if ∃ o ∈ outcomes, 2 ^ 64 ≤ ms.toNat + millisAfter origin o then .error .tooLarge
      else .ok (outcomes.map (windowNumber origin ms.toNat)) := by
  rw [funext (windowOf_ofMillis hms origin)]
  exact mapM_ite _ _ outcomes

end Widths

section Usable

variable {ms : UInt64} {origin : Timestamp} {outcomes : List Outcome}

lemma wrapsAround_iff (horigin : Timestamp.earliest? (outcomes.map Outcome.startedAt) = some origin) :
    WrapsAround ms outcomes ↔ ∃ o ∈ outcomes, 2 ^ 64 ≤ ms.toNat + millisAfter origin o := by
  unfold WrapsAround
  rw [horigin]
  simp

lemma not_wrapsAround (h : ms.toNat < 2 ^ 63) : ¬WrapsAround ms outcomes := by
  rintro ⟨origin, -, o, -, hwraps⟩
  have hafter := millisAfter_lt origin o
  omega

lemma countedIn_of_tells (hne : outcomes ≠ [])
    (horigin : Timestamp.earliest? (outcomes.map Outcome.startedAt) = some origin)
    {width : ℕ} {stats : ThroughputStats} (hwidth : stats.windowMillis = width)
    (htells : TellsHistogram (outcomes.map (windowNumber origin width)) stats) :
    CountedIn width outcomes stats := by
  obtain ⟨number, hnumber, -, hwindows⟩ := htells.windows
  obtain ⟨o, ho, rfl⟩ := List.mem_map.1 hnumber
  have hafter : windowNumber origin width o ≤ millisAfter origin o := Nat.div_le_self _ _
  constructor
  case width => exact hwidth
  case empty => exact fun hempty => absurd hempty hne
  case spanned =>
    intro first hfirst
    obtain rfl := Option.some.inj (horigin.symm.trans hfirst)
    have hspan := millisAfter_le_span origin ho
    omega
  case latest =>
    intro first last hfirst hlast hlatest horiginLeap hleap
    obtain rfl := Option.some.inj (horigin.symm.trans hfirst)
    have hle := millisAfter_le_latest (hlatest o ho) horiginLeap (hleap o ho) (hleap last hlast)
    omega
  case addressable =>
    have hlt := millisAfter_lt origin o
    omega

/-- Without outcomes there are no windows to count in. -/
lemma countedIn_nil (hms : ms ≠ 0) : ∃ stats,
    ThroughputStats.ofOutcomes [] (.ofMillis ms) = .ok stats ∧ CountedIn ms.toNat [] stats := by
  refine ⟨_, rfl, signedWidth_word hms, fun _ => rfl, ?_, ?_, ?_⟩
  · intro origin horigin
    cases horigin
  · intro origin last horigin
    cases horigin
  · exact (by decide : 8 * 0 < 2 ^ 63)

lemma ofOutcomes_of_wraps (hms : ms ≠ 0) (h : WrapsAround ms outcomes) :
    ThroughputStats.ofOutcomes outcomes (.ofMillis ms) = .error .tooLarge := by
  obtain ⟨origin, horigin, hwraps⟩ := h
  unfold ThroughputStats.ofOutcomes
  dsimp only
  rw [horigin]
  dsimp only
  rw [mapM_windowOf hms, if_pos hwraps]
  rfl

lemma countedIn_of_not_wraps (hms : ms ≠ 0) (h : ¬WrapsAround ms outcomes) : ∃ stats,
    ThroughputStats.ofOutcomes outcomes (.ofMillis ms) = .ok stats ∧
      CountedIn ms.toNat outcomes stats := by
  by_cases hne : outcomes = []
  · subst hne
    exact countedIn_nil hms
  · obtain ⟨origin, horigin⟩ := exists_origin hne
    have hnumbers := mapM_windowOf hms origin outcomes
    rw [if_neg (mt (wrapsAround_iff horigin).2 h)] at hnumbers
    obtain ⟨stats, hstats, hwidth, htells⟩ :=
      exists_tellsHistogram hne horigin (signedWidth_word hms) hnumbers
    exact ⟨stats, hstats, countedIn_of_tells hne horigin hwidth htells⟩

end Usable

/-- A window that validation accepts serves for some outcomes exactly when none of them wraps
around; otherwise there is no throughput. None wraps around a window below `2 ^ 63` milliseconds. -/
theorem accepted_window_usable_iff (c : Config) (ms : UInt64) (outcomes : List Outcome)
    (hvalid : c.validate = .ok ()) (hwindow : c.generator.throughputWindow = .ofMillis ms) :
    ((∃ stats, ThroughputStats.ofOutcomes outcomes c.generator.throughputWindow = .ok stats ∧
        CountedIn ms.toNat outcomes stats) ↔ ¬WrapsAround ms outcomes) ∧
      (WrapsAround ms outcomes →
        ThroughputStats.ofOutcomes outcomes c.generator.throughputWindow = .error .tooLarge) ∧
      (ms.toNat < 2 ^ 63 → ¬WrapsAround ms outcomes) := by
  have hms : ms ≠ 0 := by
    rintro rfl
    exact (config_validate_eq_ok.1 hvalid).generator.throughputWindow hwindow
  rw [hwindow]
  refine ⟨⟨?_, countedIn_of_not_wraps hms⟩, ofOutcomes_of_wraps hms, not_wrapsAround⟩
  rintro ⟨stats, hstats, -⟩ hwraps
  cases hstats.symm.trans (ofOutcomes_of_wraps hms hwraps)

/-- A request of five milliseconds. -/
def briefOutcome : Outcome :=
  { id := 0, startedAt := .epoch, endedAt := ⟨0, 5000000, by decide⟩, duration := .ofMillis 5,
    status := .success, error := none }

/-- A configuration with windows of `ms` milliseconds. -/
def windowed (ms : UInt64) : Config := { generator := { throughputWindow := .ofMillis ms } }

theorem accepted_window_usable_iff_edge :
    (windowed 9223372036854775807).validate = .ok () ∧ ∃ stats,
      ThroughputStats.ofOutcomes [briefOutcome]
        (windowed 9223372036854775807).generator.throughputWindow = .ok stats ∧
      CountedIn 9223372036854775807 [briefOutcome] stats ∧ stats.windows ≤ 6 := by
  have hvalid : (windowed 9223372036854775807).validate = .ok () := by decide +kernel
  obtain ⟨husable, -, hbelow⟩ :=
    accepted_window_usable_iff _ 9223372036854775807 [briefOutcome] hvalid rfl
  obtain ⟨stats, hstats, hcounted⟩ := husable.2 (hbelow (by decide))
  exact ⟨hvalid, stats, hstats, hcounted, hcounted.spanned _ rfl⟩

/-- The widest window that 64 bits can hold is accepted, and then a request of five milliseconds
leaves no throughput. -/
theorem accepted_window_wraps :
    (windowed 18446744073709551615).validate = .ok () ∧
      briefOutcome.startedAt.before briefOutcome.endedAt = true ∧
      ThroughputStats.ofOutcomes [briefOutcome]
        (windowed 18446744073709551615).generator.throughputWindow = .error .tooLarge := by
  have hwraps : WrapsAround 18446744073709551615 [briefOutcome] :=
    ⟨.epoch, rfl, briefOutcome, List.mem_cons_self, by decide⟩
  exact ⟨by decide +kernel, rfl, ofOutcomes_of_wraps (by decide) hwraps⟩

end LoadTest.Proofs
