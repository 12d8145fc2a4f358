import LoadTest.Report
import LoadTest.Proofs.Collections
import LoadTest.Proofs.CompletionCounts
import Mathlib.Data.Nat.Bitwise

/-!
# Reports do not depend on the order of outcomes

Requests settle in no particular order, and sums of floats depend on theirs. A report is nevertheless
a function of the outcomes as a collection, drift apart: what is summed is sorted first, by an order
in which no two floats are alike; what is counted can be counted in any order; and the windows of the
throughput are numbered from the earliest start, wherever in the list it stands.
-/

namespace LoadTest.Proofs

/-! ### Sorting -/

section Sorting

variable {α : Type} {le : α → α → Bool} {l l' : List α}

lemma mergeSort_eq_of_perm (htrans : ∀ a b c, le a b → le b c → le a c)
    (htotal : ∀ a b, le a b || le b a) (hantisymm : ∀ a b, le a b → le b a → a = b)
    (h : l.Perm l') : l.mergeSort le = l'.mergeSort le := by
  have hperm : (l.mergeSort le).Perm (l'.mergeSort le) :=
    (List.mergeSort_perm l le).trans (h.trans (List.mergeSort_perm l' le).symm)
  have hsorted := List.pairwise_mergeSort htrans htotal l
  have hsorted' := List.pairwise_mergeSort htrans htotal l'
  exact hperm.eq_of_pairwise (fun a b _ _ => hantisymm a b) hsorted hsorted'

/-- Floats sort by their bits: the sign turns over, and below zero so does everything else. -/
lemma toNat_floatKey (x : Float) : (Scalar.floatKey x).toNat =
    if x.toBits.toNat < 2 ^ 63 then 2 ^ 63 + x.toBits.toNat
    else 2 ^ 64 - 1 - x.toBits.toNat := by
  have hlimit : x.toBits.toNat < 2 ^ 64 := x.toBits.toNat_lt
  have hmask : (0x8000000000000000 : UInt64).toNat = 2 ^ 63 := rfl
  have hsign : x.toBits &&& 0x8000000000000000 = 0 ↔ x.toBits.toNat < 2 ^ 63 := by
    rw [← UInt64.toNat_inj, UInt64.toNat_and, hmask, Nat.and_two_pow,
      Nat.testBit_eq_decide_div_mod_eq]
    by_cases h : x.toBits.toNat < 2 ^ 63
    · rw [Nat.div_eq_of_lt h]
      exact iff_of_true rfl h
    · have hone : x.toBits.toNat / 2 ^ 63 = 1 := by omega
      rw [hone]
      exact iff_of_false (by decide) h
  unfold Scalar.floatKey
  dsimp only
  by_cases h : x.toBits.toNat < 2 ^ 63
  · have hor := Nat.two_pow_add_eq_or_of_lt h 1
    rw [Nat.mul_one] at hor
    rw [if_pos (hsign.2 h), if_pos h, UInt64.toNat_or, hmask, Nat.or_comm, hor]
  · have hsize : UInt64.size = 2 ^ 64 := rfl
    rw [if_neg (mt hsign.1 h), if_neg h, UInt64.toNat_not, hsize]

lemma toBits_injective {x y : Float} (h : x.toBits = y.toBits) : x = y := by
  obtain ⟨⟨xbits, xvalid⟩⟩ := x
  obtain ⟨⟨ybits, yvalid⟩⟩ := y
  obtain rfl : xbits = ybits := h
  rfl

lemma floatKey_injective {x y : Float} (h : Scalar.floatKey x = Scalar.floatKey y) : x = y := by
  have hkeys := congrArg UInt64.toNat h
  have hx : x.toBits.toNat < 2 ^ 64 := x.toBits.toNat_lt
  have hy : y.toBits.toNat < 2 ^ 64 := y.toBits.toNat_lt
  rw [toNat_floatKey, toNat_floatKey] at hkeys
  apply toBits_injective
  apply UInt64.toNat_inj.1
  split at hkeys <;> split at hkeys <;> omega

lemma mergeSort_float_eq {l l' : List Float} (h : l.Perm l') :
    l.mergeSort Scalar.sortsBefore = l'.mergeSort Scalar.sortsBefore := by
  apply mergeSort_eq_of_perm _ _ _ h
  · intro x y z hxy hyz
    exact decide_eq_true (UInt64.le_trans (of_decide_eq_true hxy) (of_decide_eq_true hyz))
  · intro x y
    rw [Bool.or_eq_true]
    exact (UInt64.le_total (Scalar.floatKey x) (Scalar.floatKey y)).imp decide_eq_true decide_eq_true
  · intro x y hxy hyx
    exact floatKey_injective (UInt64.le_antisymm (of_decide_eq_true hxy) (of_decide_eq_true hyx))

lemma ofLatencies_eq_of_perm {l l' : List Float} (h : l.Perm l') :
    LatencyStats.ofLatencies l = LatencyStats.ofLatencies l' := by
  unfold LatencyStats.ofLatencies
  rw [h.isEmpty_eq, mergeSort_float_eq h]

end Sorting

/-! ### Counting -/

section Counting

variable {β : Type}

lemma lookup_of_mem {l : List (String × β)} (h : l.Pairwise fun a b => a.1 < b.1) {e : String × β}
    (he : e ∈ l) : l.lookup e.1 = some e.2 := by
  induction l with
  | nil => cases he
  | cons head rest ih =>
    obtain ⟨first, v⟩ := head
    obtain ⟨hfirst, hrest⟩ := List.pairwise_cons.1 h
    rw [lookup_cons_eq]
    obtain rfl | he := List.mem_cons.1 he
    · rw [if_pos rfl]
    · have hne : e.1 ≠ first := fun heq => String.lt_irrefl _ (heq ▸ hfirst e he)
      rw [if_neg hne]
      exact ih hrest he

lemma mem_of_lookup {l : List (String × β)} {key : String} {v : β} (h : l.lookup key = some v) :
    (key, v) ∈ l := by
  obtain ⟨before, after, rfl, -⟩ := List.lookup_eq_some_iff.1 h
  simp

/-- A map is known by what it holds under each name. -/
lemma nameMap_ext {m m' : NameMap β} (h : ∀ name, m.get? name = m'.get? name) : m = m' := by
  have hmem : ∀ {m m' : NameMap β}, (∀ name, m.get? name = m'.get? name) →
      ∀ e ∈ m.entries, e ∈ m'.entries := by
    intro m m' h e he
    have hlookup : m'.get? e.1 = some e.2 := by
      rw [← h]
      exact lookup_of_mem m.ascending he
    exact mem_of_lookup hlookup
  have hnodup : ∀ m : NameMap β, m.entries.Nodup := by
    intro m
    refine m.ascending.imp ?_
    rintro a b hlt rfl
    exact String.lt_irrefl _ hlt
  have hperm : m.entries.Perm m'.entries :=
    (List.perm_ext_iff_of_nodup (hnodup m) (hnodup m')).2
      fun e => ⟨hmem h e, hmem (fun name => (h name).symm) e⟩
  have hentries : m.entries = m'.entries := by
    apply hperm.eq_of_pairwise _ m.ascending m'.ascending
    intro a b _ _ hab hba
    exact absurd (String.lt_trans hab hba) (String.lt_irrefl _)
  obtain ⟨entries, _⟩ := m
  obtain ⟨entries', _⟩ := m'
  obtain rfl : entries = entries' := hentries
  rfl

lemma ofTexts_eq_of_perm {texts texts' : List String} (h : texts.Perm texts') :
    Tally.ofTexts texts = Tally.ofTexts texts' := by
  apply nameMap_ext
  intro text
  rw [get?_ofTexts, get?_ofTexts, h.count_eq]

end Counting

/-! ### The earliest start -/

section Earliest

variable {l l' : List Timestamp}

lemma before_total (a b : Timestamp) : a.before b = true ∨ b.before a = true := by
  unfold Timestamp.before
  simp only [Bool.or_eq_true, Bool.and_eq_true, decide_eq_true_eq]
  omega

lemma before_trans {a b c : Timestamp} (hab : a.before b = true) (hbc : b.before c = true) :
    a.before c = true := by
  unfold Timestamp.before at *
  simp only [Bool.or_eq_true, Bool.and_eq_true, decide_eq_true_eq] at *
  omega

lemma before_antisymm {a b : Timestamp} (hab : a.before b = true) (hba : b.before a = true) :
    a = b := by
  obtain ⟨seconds, nanos, _⟩ := a
  obtain ⟨seconds', nanos', _⟩ := b
  simp only [Timestamp.before, Bool.or_eq_true, Bool.and_eq_true, decide_eq_true_eq] at hab hba
  obtain rfl : seconds = seconds' := by omega
  obtain rfl : nanos = nanos' := by omega
  rfl

lemma foldl_earlier_mem (t : Timestamp) : l.foldl Timestamp.earlier t ∈ t :: l := by
  induction l generalizing t with
  | nil => exact List.mem_cons_self
  | cons u rest ih =>
    rw [List.foldl_cons]
    obtain h | h := List.mem_cons.1 (ih (t.earlier u))
    · rw [h]
      unfold Timestamp.earlier
      split
      · simp
      · simp
    · simp [h]

lemma foldl_earlier_before (t : Timestamp) :
    ∀ u ∈ t :: l, (l.foldl Timestamp.earlier t).before u = true := by
  induction l generalizing t with
  | nil =>
    intro u hu
    obtain rfl := List.mem_singleton.1 hu
    exact (before_total u u).elim id id
  | cons v rest ih =>
    have hhead : (rest.foldl Timestamp.earlier (t.earlier v)).before (t.earlier v) = true :=
      ih (t.earlier v) _ List.mem_cons_self
    have hboth : (t.earlier v).before t = true ∧ (t.earlier v).before v = true := by
      unfold Timestamp.earlier
      by_cases h : t.before v = true
      · rw [if_pos h]
        exact ⟨(before_total t t).elim id id, h⟩
      · rw [if_neg h]
        exact ⟨(before_total t v).resolve_left h, (before_total v v).elim id id⟩
    intro u hu
    rw [List.foldl_cons]
    simp only [List.mem_cons] at hu
    obtain rfl | rfl | hu := hu
    · exact before_trans hhead hboth.1
    · exact before_trans hhead hboth.2
    · exact ih (t.earlier v) u (List.mem_cons_of_mem _ hu)

lemma earliest?_eq_some_iff {t : Timestamp} :
    Timestamp.earliest? l = some t ↔ t ∈ l ∧ ∀ u ∈ l, t.before u = true := by
  cases l with
  | nil => simp [Timestamp.earliest?]
  | cons first rest =>
    rw [Timestamp.earliest?, Option.some.injEq]
    constructor
    · rintro rfl
      exact ⟨foldl_earlier_mem first, foldl_earlier_before first⟩
    · rintro ⟨hmem, hbefore⟩
      exact before_antisymm (foldl_earlier_before first t hmem)
        (hbefore _ (foldl_earlier_mem first))

lemma earliest?_eq_of_perm (h : l.Perm l') : Timestamp.earliest? l = Timestamp.earliest? l' := by
  apply Option.ext
  intro t
  rw [earliest?_eq_some_iff, earliest?_eq_some_iff]
  simp only [h.mem_iff]

end Earliest

/-! ### Windows -/

section Windows

variable {ε α β : Type} {f : α → Except ε β} {l l' : List α}

lemma mapM_perm_ok {results : List β} (h : l.Perm l') (hl : l.mapM f = .ok results) :
    ∃ results', l'.mapM f = .ok results' ∧ results.Perm results' := by
  obtain ⟨results', hresults', hperm⟩ := List.perm_comp_forall₂ h.symm (mapM_eq_ok.1 hl)
  exact ⟨results', mapM_eq_ok.2 hresults', hperm.symm⟩

lemma exists_mem_of_mapM_error {e : ε} (h : l.mapM f = .error e) : ∃ a ∈ l, f a = .error e := by
  induction l with
  | nil => cases h
  | cons a rest ih =>
    rw [List.mapM_cons] at h
    cases ha : f a with
    | error e' =>
      rw [ha] at h
      cases h
      exact ⟨a, List.mem_cons_self, ha⟩
    | ok b =>
      rw [ha] at h
      cases hrest : rest.mapM f with
      | error e' =>
        change (rest.mapM f >>= fun bs => pure (b :: bs)) = .error e at h
        rw [hrest] at h
        cases h
        obtain ⟨c, hc, hfc⟩ := ih hrest
        exact ⟨c, List.mem_cons_of_mem _ hc, hfc⟩
      | ok bs =>
        change (rest.mapM f >>= fun bs => pure (b :: bs)) = .error e at h
        rw [hrest] at h
        cases h

/-- Computations that can fail in one way only fail together, in whatever order they are made. -/
lemma mapM_perm {fault : ε} (hfault : ∀ a e, f a = .error e → e = fault) (h : l.Perm l') :
    (∃ results results', l.mapM f = .ok results ∧ l'.mapM f = .ok results' ∧
      results.Perm results') ∨ l.mapM f = .error fault ∧ l'.mapM f = .error fault := by
  cases hl : l.mapM f with
  | ok results =>
    obtain ⟨results', hl', hperm⟩ := mapM_perm_ok h hl
    exact .inl ⟨results, results', rfl, hl', hperm⟩
  | error e =>
    refine .inr ?_
    obtain ⟨a, -, ha⟩ := exists_mem_of_mapM_error hl
    obtain rfl := hfault a e ha
    refine ⟨rfl, ?_⟩
    cases hl' : l'.mapM f with
    | ok results' =>
      obtain ⟨results, hok, -⟩ := mapM_perm_ok h.symm hl'
      rw [hl] at hok
      cases hok
    | error e' =>
      obtain ⟨b, -, hb⟩ := exists_mem_of_mapM_error hl'
      rw [hfault b e' hb]

lemma mapM_bind_eq_of_perm {γ : Type} {g g' : List β → Except ε γ} {fault : ε}
    (hfault : ∀ a e, f a = .error e → e = fault) (h : l.Perm l')
    (hg : ∀ results results', results.Perm results' → g results = g' results') :
    l.mapM f >>= g = l'.mapM f >>= g' := by
  obtain ⟨results, results', hl, hl', hperm⟩ | ⟨hl, hl'⟩ := mapM_perm hfault h
  · rw [hl, hl']
    exact hg results results' hperm
  · rw [hl, hl']
    rfl

/-- The width decides how the number of a window can fail to exist. -/
lemma windowOf_error {origin : Timestamp} {width : Int} {o : Outcome} {fault : Fault}
    (h : ThroughputStats.windowOf origin width o = .error fault) :
    fault = if width = 0 then .divisionByZero else .tooLarge := by
  unfold ThroughputStats.windowOf at h
  dsimp only at h
  by_cases hwidth : width = 0
  · rw [if_pos hwidth] at h ⊢
    cases h
    rfl
  · rw [if_neg hwidth] at h ⊢
    split at h
    · cases h
      rfl
    · cases h

lemma ofOutcomes_eq_of_perm {outcomes outcomes' : List Outcome} (h : outcomes.Perm outcomes')
    (window : Duration) :
    ThroughputStats.ofOutcomes outcomes window = ThroughputStats.ofOutcomes outcomes' window := by
  have hearliest := earliest?_eq_of_perm (h.map Outcome.startedAt)
  unfold ThroughputStats.ofOutcomes
  dsimp only
  rw [hearliest]
  cases Timestamp.earliest? (outcomes'.map Outcome.startedAt) with
  | none => rfl
  | some origin =>
    have hfault : ∀ o fault,
        ThroughputStats.windowOf origin (ThroughputStats.signedWidth window) o = .error fault →
          fault = _ := fun o fault => windowOf_error
    apply mapM_bind_eq_of_perm hfault h
    intro indices indices' hperm
    rw [completions_counted, completions_counted, countsByWindow_eq_of_perm hperm, h.length_eq]

end Windows

/-- A report without the drift of its latencies. -/
def withoutDrift (report : Report) : Report :=
  { report with latency := { report.latency with drift := Scalar.zero } }

lemma reportWith_eq_of_perm {run : RunRecord} {outcomes : List Outcome}
    (h : run.outcomes.Perm outcomes) (throughput : ThroughputStats) :
    withoutDrift (run.reportWith throughput) =
      withoutDrift ({ run with outcomes }.reportWith throughput) := by
  have hlatencies := ofLatencies_eq_of_perm
    ((h.filter Outcome.isSuccess).map (Outcome.millis (α := Float)))
  have herrors := ofTexts_eq_of_perm (h.filterMap Outcome.error)
  unfold withoutDrift RunRecord.reportWith
  dsimp only
  rw [hlatencies, herrors, h.length_eq, h.countP_eq, h.countP_eq]

/-- The order in which requests settled does not show in a report, except in the drift: from the same
outcomes in another order comes the same report, to the last bit, or the same fault. -/
theorem report_order_free (run : RunRecord) (outcomes : List Outcome)
    (h : run.outcomes.Perm outcomes) :
    run.report.map withoutDrift = { run with outcomes }.report.map withoutDrift := by
  unfold RunRecord.report
  dsimp only
  rw [ofOutcomes_eq_of_perm h]
  cases ThroughputStats.ofOutcomes outcomes run.throughputWindow with
  | error fault => rfl
  | ok throughput => exact congrArg Except.ok (reportWith_eq_of_perm h throughput)

/-- A run of three requests, the second of which fails at once. -/
def unevenRun : RunRecord where
  runId := .nil
  name := "uneven"
  schedule := .concurrency 2
  startedAt := .epoch
  finishedAt := ⟨1, 100000000, by decide⟩
  elapsed := .ofMillis 1100
  outcomes :=
    [{ id := 1, startedAt := .epoch, endedAt := .epoch, duration := .zero, status := .failed,
       error := some "refused" },
     { id := 2, startedAt := .epoch, endedAt := ⟨0, 350000000, by decide⟩,
       duration := .ofMillis 350, status := .success, error := none },
     { id := 0, startedAt := .epoch, endedAt := ⟨0, 700000000, by decide⟩, duration := .ofMillis 700,
       status := .success, error := none }]
  abandonedRequests := 0
  skippedRequests := 0
  resourceSamples := []
  memoryLeak := none
  throughputWindow := .ofMillis 100

theorem report_order_free_reversed :
    unevenRun.outcomes.Perm unevenRun.outcomes.reverse ∧
    ∃ report,
      { unevenRun with outcomes := unevenRun.outcomes.reverse }.report.map withoutDrift =
        .ok report ∧
      report.totalRequests = 3 ∧ report.throughput.windows = 8 ∧
      report.errors.get? "refused" = some 1 := by
  have hperm : unevenRun.outcomes.Perm unevenRun.outcomes.reverse :=
    (List.reverse_perm unevenRun.outcomes).symm
  have hsame := report_order_free unevenRun _ hperm
  obtain ⟨throughput, hthroughput, hwindows⟩ : ∃ throughput,
      ThroughputStats.ofOutcomes unevenRun.outcomes unevenRun.throughputWindow = .ok throughput ∧
        throughput.windows = 8 := ⟨_, rfl, rfl⟩
  have hreport := RunRecord.report_eq_ok.2 ⟨throughput, hthroughput, rfl⟩
  rw [hreport] at hsame
  exact ⟨hperm, _, hsame.symm, rfl, hwindows, rfl⟩

end LoadTest.Proofs
