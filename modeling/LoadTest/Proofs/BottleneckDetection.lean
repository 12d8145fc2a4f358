import LoadTest.Proofs.ConfigValidation
import LoadTest.Proofs.Findings

/-!
# Detection of bottlenecks

The figures of some measurements that have a limit are checked one after the other, item by item.
Each one above its limit is a bottleneck, and what is reported is a stable sort of the bottlenecks,
the most severe first. These rules leave no choice in the report.
-/

namespace LoadTest.Proofs

/-! ### What is checked -/

/-- A figure of some items that has the limit of a kind. -/
structure LimitedFigure (ι : Type) where
  kind : BottleneckKind
  value : ι → Float

/-- A figure of one item, and the kind that its limit has. -/
structure Check where
  source : String
  kind : BottleneckKind
  value : Float

def benchmarkChecks : List (LimitedFigure BenchmarkFigures) :=
  [⟨.memory, fun b => Float.ofNat b.memoryBytes.toNat⟩]

def loadTestChecks : List (LimitedFigure LoadFigures) :=
  [⟨.memory, fun l => Float.ofNat l.peakMemoryBytes.toNat⟩,
   ⟨.responseTime, fun l => l.averageResponseMillis.value⟩,
   ⟨.errorRate, fun l => l.errorRate.value⟩]

def systemChecks : List (LimitedFigure SystemFigures) :=
  [⟨.memory, fun s => Float.ofNat s.memoryBytes.toNat⟩,
   ⟨.cpu, fun s => s.cpuPercent.value⟩]

/-- The checks of some items, all those of an item before those of the next. -/
def checksOf {ι : Type} (figures : List (LimitedFigure ι)) (name : ι → String) (items : List ι) :
    List Check :=
  items.flatMap fun item => figures.map fun f => ⟨name item, f.kind, f.value item⟩

def allChecks (m : Measurements) : List Check :=
  checksOf benchmarkChecks BenchmarkFigures.name m.benchmarks ++
  checksOf loadTestChecks LoadFigures.name m.loadTests ++
  checksOf systemChecks SystemFigures.name m.systems

namespace Check

def Exceeds (limits : BottleneckLimits) (c : Check) : Prop := limitOf limits c.kind < c.value

instance (limits : BottleneckLimits) : DecidablePred (Exceeds limits) := fun c =>
  inferInstanceAs (Decidable (limitOf limits c.kind < c.value))

def figure (limits : BottleneckLimits) (c : Check) : Bottleneck.Figure :=
  ⟨c.kind, c.source, c.value, limitOf limits c.kind⟩

/-- The bottleneck that a check finds. -/
def bottleneck (limits : BottleneckLimits) (c : Check) : Bottleneck where
  kind := c.kind
  source := c.source
  value := c.value
  limit := limitOf limits c.kind
  severity := Severity.ofExcess c.value (limitOf limits c.kind)
  recommendation := c.kind.recommendation

end Check

/-- Checks with the bottlenecks that they find, in the order of the checks. -/
inductive Flagged (limits : BottleneckLimits) : List Check → List Bottleneck → Prop
  | nil : Flagged limits [] []
  | above {c : Check} {rest : List Check} {found : List Bottleneck} (h : c.Exceeds limits)
      (hrest : Flagged limits rest found) : Flagged limits (c :: rest) (c.bottleneck limits :: found)
  | within {c : Check} {rest : List Check} {found : List Bottleneck} (h : ¬c.Exceeds limits)
      (hrest : Flagged limits rest found) : Flagged limits (c :: rest) found

section Detection

variable {limits : BottleneckLimits} {cs : List Check} {found found' : List Bottleneck}

/-- There is no choice in what the checks find. -/
lemma Flagged.unique (h : Flagged limits cs found) (h' : Flagged limits cs found') :
    found = found' := by
  induction h generalizing found' with
  | nil => cases h'; rfl
  | above hc _ ih =>
    cases h' with
    | above _ hrest' => rw [ih hrest']
    | within hc' _ => exact absurd hc hc'
  | within hc _ ih =>
    cases h' with
    | above hc' _ => exact absurd hc' hc
    | within _ hrest' => exact ih hrest'

lemma Flagged.mem_iff (h : Flagged limits cs found) (b : Bottleneck) :
    b ∈ found ↔ ∃ c ∈ cs, c.Exceeds limits ∧ b = c.bottleneck limits := by
  induction h with
  | nil => simp
  | above hc _ ih => simp [ih, hc]
  | within hc _ ih => simp [ih, hc]

lemma Flagged.length_eq (h : Flagged limits cs found) :
    found.length = cs.countP (Check.Exceeds limits ·) := by
  induction h with
  | nil => rfl
  | above hc _ ih => rw [List.length_cons, ih, List.countP_cons_of_pos (by simpa using hc)]
  | within hc _ ih => rw [ih, List.countP_cons_of_neg (by simpa using hc)]

lemma figures_eq (m : Measurements) (limits : BottleneckLimits) :
    Bottleneck.figures m limits = (allChecks m).map (Check.figure limits) := by
  unfold Bottleneck.figures allChecks checksOf
  dsimp only
  rw [List.map_append, List.map_append, List.map_flatMap, List.map_flatMap, List.map_flatMap,
    List.map_eq_flatMap]
  rfl

lemma ofFigure?_figure (limits : BottleneckLimits) (c : Check) :
    Bottleneck.ofFigure? (c.figure limits) =
      if c.Exceeds limits then some (c.bottleneck limits) else none := rfl

lemma flagged_figures (limits : BottleneckLimits) (cs : List Check) :
    Flagged limits cs ((cs.map (Check.figure limits)).filterMap Bottleneck.ofFigure?) := by
  induction cs with
  | nil => exact .nil
  | cons c rest ih =>
    have hfigure := ofFigure?_figure limits c
    rw [List.map_cons]
    by_cases hc : c.Exceeds limits
    · rw [if_pos hc] at hfigure
      rw [List.filterMap_cons_some hfigure]
      exact .above hc ih
    · rw [if_neg hc] at hfigure
      rw [List.filterMap_cons_none hfigure]
      exact .within hc ih

end Detection

/-- The bottlenecks of some measurements: the report is the stable sort, the most severe first, of
what the checks find in their order, and no other list is. It holds a bottleneck for each check that
exceeds its limit, and as many as there are such checks. -/
theorem bottlenecks_exact (m : Measurements) (limits : BottleneckLimits) :
    (∀ report, report = Bottleneck.detect m limits ↔ ∃ found, Flagged limits (allChecks m) found ∧
      IsStableSort (fun b => severityOrder b.severity) found report) ∧
    (∀ b, b ∈ Bottleneck.detect m limits ↔
      ∃ c ∈ allChecks m, c.Exceeds limits ∧ b = c.bottleneck limits) ∧
    (Bottleneck.detect m limits).length = (allChecks m).countP (Check.Exceeds limits ·) := by
  have hflagged := flagged_figures limits (allChecks m)
  rw [← figures_eq] at hflagged
  have hsorted : IsStableSort (fun b : Bottleneck => severityOrder b.severity)
      ((Bottleneck.figures m limits).filterMap Bottleneck.ofFigure?) (Bottleneck.detect m limits) := by
    simp only [Bottleneck.detect, severity_rank_eq]
    exact isStableSort_mergeSort _ _
  refine ⟨?_, ?_, ?_⟩
  · intro report
    constructor
    · rintro rfl
      exact ⟨_, hflagged, hsorted⟩
    · rintro ⟨found, hfound, hreport⟩
      rw [hfound.unique hflagged] at hreport
      exact hreport.unique hsorted
  · intro b
    rw [hsorted.perm.mem_iff, hflagged.mem_iff]
  · rw [hsorted.perm.length_eq, hflagged.length_eq]

/-- A load test that takes a little too much memory and far too long, on a host at its limit. -/
def slowCheckout : Measurements :=
  { loadTests :=
      [{ name := "checkout", throughput := .float 20.0, averageResponseMillis := .float 3000.0
         p95ResponseMillis := .float 4000.0, p99ResponseMillis := .float 5000.0
         errorRate := .float 0.05, peakMemoryBytes := 115000000 }]
    systems :=
      [{ name := "eu", cpuPercent := .float 80.0, memoryBytes := 1, loadAverage := .float 0.5 }] }

theorem bottlenecks_exact_checkout :
    (Bottleneck.detect slowCheckout {}).map (fun b => (b.source, b.kind, b.severity)) =
      [("checkout", .responseTime, .critical), ("checkout", .memory, .low)] := by
  obtain ⟨found, hfound, hsorted⟩ := ((bottlenecks_exact slowCheckout {}).1 _).1 rfl
  have hflagged : Flagged {} (allChecks slowCheckout) _ :=
    .above (by decide +kernel) <| .above (by decide +kernel) <| .within (by decide +kernel) <|
    .within (by decide +kernel) <| .within (by decide +kernel) .nil
  obtain rfl := hfound.unique hflagged
  rw [hsorted.swapped (by decide +kernel)]
  rfl

end LoadTest.Proofs
