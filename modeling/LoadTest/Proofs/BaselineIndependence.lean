import LoadTest.Proofs.TrendSeries

/-!
# Baselines do not interfere

An analyzer holds two things under the name of a baseline: the baseline and its series. `HeldUnder`
collects them. Every operation changes them by a rule of its own, `onHeld`, that looks at nothing
else in the analyzer, and an analysis reads nothing else. What is done under other names is therefore
without effect, and can be left out of a history.
-/

namespace LoadTest.Proofs

/-- What an analyzer holds under one name. -/
structure HeldUnder where
  baseline : Option Baseline
  series : Option SeriesMap

def heldUnder (name : String) (a : Analyzer) : HeldUnder := ⟨a.baseline? name, a.series.get? name⟩

/-! ### Leaving out the readings of the clock -/

def untimedBaseline (b : Baseline) : Baseline := { b with createdAt := .epoch }

def untimedResult (r : AnalysisResult) : AnalysisResult := { r with analyzedAt := .epoch }

/-- What an analysis answers: its result, apart from the time of the analysis, or its failure. -/
def answer (analyzed : Except Failure (AnalysisResult × Analyzer)) : Except Failure AnalysisResult :=
  analyzed.map fun (result, _) => untimedResult result

namespace HeldUnder

def untimed (held : HeldUnder) : HeldUnder :=
  { held with baseline := held.baseline.map untimedBaseline }

/-- The series after one more comparison with the baseline. -/
def compared (settings : AnalyzerSettings) (current : Measurements) (held : HeldUnder) : HeldUnder :=
  match held.baseline with
  | none => held
  | some b =>
    { held with
      series := some (SeriesMap.extendAll settings (held.series.getD NameMap.empty)
        (b.measurements.samples current)).1 }

/-- What analyses read under a name: the version of the baseline, how it is paired with current
items, and the series. -/
def reading (held : HeldUnder) :
    Option (String × (Measurements → List (MetricSample Float))) × Option SeriesMap :=
  (held.baseline.map fun b => (b.version, b.measurements.samples), held.series)

end HeldUnder

namespace Operation

/-- Whether an operation is on a name, or on all of them. -/
def concerns (name : String) : Operation → Bool
  | .create _ stored _ _ => stored = name
  | .remove removed => removed = name
  | .analyze _ against _ => against = name
  | .clearHistory | .clearBaselines => true

def untimed : Operation → Operation
  | .create _ name version measurements => .create .epoch name version measurements
  | .remove name => .remove name
  | .analyze _ name current => .analyze .epoch name current
  | .clearHistory => .clearHistory
  | .clearBaselines => .clearBaselines

/-- What an operation does to what is held under a name. -/
def onHeld (settings : AnalyzerSettings) (name : String) (held : HeldUnder) : Operation → HeldUnder
  | .create now stored version measurements =>
    if stored = name then
      ⟨some { name := stored, version, createdAt := now, measurements }, none⟩
    else held
  | .remove removed => if removed = name then ⟨none, none⟩ else held
  | .analyze _ against current => if against = name then held.compared settings current else held
  | .clearHistory => { held with series := none }
  | .clearBaselines => ⟨none, none⟩

end Operation

open Operation

section Steps

variable {settings : AnalyzerSettings} {name : String}

/-- A baseline that is stored or dropped takes its series with it. -/
lemma heldUnder_replaced {a a' : Analyzer} {stored : String} {b : Option Baseline}
    (hbaseline : a'.baseline? name = if name = stored then b else a.baseline? name)
    (hseries : a'.series.get? name = if name = stored then none else a.series.get? name) :
    heldUnder name a' = if stored = name then ⟨b, none⟩ else heldUnder name a := by
  unfold heldUnder
  rw [hbaseline, hseries]
  by_cases hname : stored = name
  · rw [if_pos hname.symm, if_pos hname.symm, if_pos hname]
  · rw [if_neg (Ne.symm hname), if_neg (Ne.symm hname), if_neg hname]

lemma heldUnder_analyze (a : Analyzer) (now : Timestamp) (against : String)
    (current : Measurements) :
    heldUnder name (apply a (.analyze now against current)) =
      onHeld a.settings name (heldUnder name a) (.analyze now against current) := by
  rw [onHeld, apply]
  cases hanalyze : a.analyze now against current with
  | error failure =>
    obtain ⟨hnone, -⟩ := analyze_eq_error.1 hanalyze
    by_cases hname : against = name
    · subst hname
      rw [if_pos rfl, HeldUnder.compared, heldUnder, hnone]
    · rw [if_neg hname]
  | ok pair =>
    obtain ⟨result, a'⟩ := pair
    obtain ⟨b, hb, -, rfl⟩ := analyze_eq_ok.1 hanalyze
    by_cases hname : against = name
    · subst hname
      rw [if_pos rfl, heldUnder]
      dsimp only
      rw [get?_insert, if_pos rfl, HeldUnder.compared, heldUnder, hb]
      exact congrArg (HeldUnder.mk · _) hb
    · rw [if_neg hname, heldUnder]
      dsimp only
      rw [get?_insert, if_neg (Ne.symm hname)]
      rfl

/-- An operation changes what is held under a name by what is held there alone. -/
lemma heldUnder_apply (a : Analyzer) (op : Operation) :
    heldUnder name (apply a op) = onHeld a.settings name (heldUnder name a) op := by
  cases op with
  | create now stored version measurements =>
    exact heldUnder_replaced (get?_upsert ..) (get?_erase ..)
  | remove removed => exact heldUnder_replaced (get?_remove ..) (get?_erase ..)
  | analyze now against current => exact heldUnder_analyze a now against current
  | clearHistory => rfl
  | clearBaselines => rfl

lemma onHeld_of_not_concerns {op : Operation} (h : op.concerns name = false) (held : HeldUnder) :
    onHeld settings name held op = held := by
  cases op with
  | create now stored version measurements => exact if_neg (of_decide_eq_false h)
  | remove removed => exact if_neg (of_decide_eq_false h)
  | analyze now against current => exact if_neg (of_decide_eq_false h)
  | clearHistory => cases h
  | clearBaselines => cases h

lemma compared_untimed (current : Measurements) (held : HeldUnder) :
    (held.compared settings current).untimed = held.untimed.compared settings current := by
  obtain ⟨baseline, series⟩ := held
  cases baseline <;> rfl

/-- Clock readings are kept as they are, and nothing else is made of them. -/
lemma onHeld_untimed (held : HeldUnder) (op : Operation) :
    (onHeld settings name held op).untimed = onHeld settings name held.untimed op.untimed := by
  cases op with
  | create now stored version measurements =>
    rw [onHeld, Operation.untimed, onHeld]
    by_cases hname : stored = name
    · rw [if_pos hname, if_pos hname]
      rfl
    · rw [if_neg hname, if_neg hname]
  | remove removed =>
    rw [onHeld, Operation.untimed, onHeld]
    by_cases hname : removed = name
    · rw [if_pos hname, if_pos hname]
      rfl
    · rw [if_neg hname, if_neg hname]
  | analyze now against current =>
    rw [onHeld, Operation.untimed, onHeld]
    by_cases hname : against = name
    · rw [if_pos hname, if_pos hname]
      exact compared_untimed current held
    · rw [if_neg hname, if_neg hname]
  | clearHistory => rfl
  | clearBaselines => rfl

lemma reading_untimed (held : HeldUnder) : held.untimed.reading = held.reading := by
  obtain ⟨baseline, series⟩ := held
  cases baseline <;> rfl

/-- An analysis reads nothing but the settings and what is held under its name. -/
lemma answer_congr {a a' : Analyzer} (hsettings : a.settings = a'.settings)
    (hheld : (heldUnder name a).reading = (heldUnder name a').reading) (now now' : Timestamp)
    (current : Measurements) :
    answer (a.analyze now name current) = answer (a'.analyze now' name current) := by
  obtain ⟨hbaseline, hseries⟩ := Prod.mk.inj hheld
  change (a.baseline? name).map _ = (a'.baseline? name).map _ at hbaseline
  change a.series.get? name = a'.series.get? name at hseries
  cases hb : a.baseline? name with
  | none =>
    rw [hb, Option.map_none, eq_comm, Option.map_eq_none_iff] at hbaseline
    rw [analyze_eq_error.2 ⟨hb, rfl⟩, analyze_eq_error.2 ⟨hbaseline, rfl⟩]
  | some b =>
    rw [hb, Option.map_some, eq_comm, Option.map_eq_some_iff] at hbaseline
    obtain ⟨b', hb', hread⟩ := hbaseline
    obtain ⟨hversion, hsamples⟩ := Prod.mk.inj hread
    rw [analyze_eq_ok.2 ⟨b, hb, rfl, rfl⟩, analyze_eq_ok.2 ⟨b', hb', rfl, rfl⟩, hsettings, hseries,
      hversion, hsamples]
    rfl

end Steps

section Histories

variable (settings : AnalyzerSettings) (name : String) (ops : List Operation)

lemma heldUnder_run :
    heldUnder name (run settings ops) = ops.foldl (onHeld settings name) ⟨none, none⟩ := by
  induction ops using List.reverseRecOn with
  | nil => rfl
  | append_singleton ops op ih =>
    have hrun : run settings (ops ++ [op]) = apply (run settings ops) op := List.foldl_concat ..
    rw [hrun, heldUnder_apply, run_settings, ih, List.foldl_concat]

/-- Operations on other names can be left out. -/
lemma heldUnder_run_filter :
    heldUnder name (run settings (ops.filter (concerns name))) =
      heldUnder name (run settings ops) := by
  rw [heldUnder_run, heldUnder_run, List.foldl_filter]
  congr 1
  funext held op
  cases hconcerns : op.concerns name with
  | true => rw [if_pos rfl]
  | false => rw [if_neg Bool.false_ne_true, onHeld_of_not_concerns hconcerns]

lemma foldl_onHeld_untimed (held : HeldUnder) :
    (ops.foldl (onHeld settings name) held).untimed =
      (ops.map Operation.untimed).foldl (onHeld settings name) held.untimed := by
  induction ops generalizing held with
  | nil => rfl
  | cons op rest ih => rw [List.foldl_cons, ih, onHeld_untimed, List.map_cons, List.foldl_cons]

lemma heldUnder_run_untimed {ops ops' : List Operation}
    (h : ops.map Operation.untimed = ops'.map Operation.untimed) :
    (heldUnder name (run settings ops)).untimed = (heldUnder name (run settings ops')).untimed := by
  rw [heldUnder_run, heldUnder_run, foldl_onHeld_untimed, foldl_onHeld_untimed, h]

end Histories

/-- Baselines do not interfere. At every point of a history, the baseline of a name is the one that
there would be if nothing had been done under other names. If in addition every operation happened
at another time, the baseline would be the same apart from when it was stored, and any analysis
against it would have the same answer. -/
theorem baselines_independent (settings : AnalyzerSettings) (ops : List Operation) (name : String) :
    ∀ before, before <+: ops →
      (run settings before).baseline? name =
        (run settings (before.filter (concerns name))).baseline? name ∧
      ∀ alone, alone.map Operation.untimed = (before.filter (concerns name)).map Operation.untimed →
        ((run settings before).baseline? name).map untimedBaseline =
          ((run settings alone).baseline? name).map untimedBaseline ∧
        ∀ now now' current,
          answer ((run settings before).analyze now name current) =
            answer ((run settings alone).analyze now' name current) := by
  intro before _
  have hfilter := heldUnder_run_filter settings name before
  refine ⟨congrArg HeldUnder.baseline hfilter.symm, fun alone halone => ?_⟩
  have hheld : (heldUnder name (run settings before)).untimed =
      (heldUnder name (run settings alone)).untimed := by
    rw [← hfilter]
    exact heldUnder_run_untimed settings name halone.symm
  refine ⟨congrArg HeldUnder.baseline hheld, fun now now' current => ?_⟩
  have hsettings : (run settings before).settings = (run settings alone).settings := by
    rw [run_settings, run_settings]
  apply answer_congr hsettings
  rw [← reading_untimed, hheld, reading_untimed]

/-- Two baselines under comparison in turn. -/
def sharedHistory : List Operation :=
  [.create .epoch "main" "1.0" (busyHost 10.0), .create .epoch "edge" "0.9" (busyHost 70.0),
   .analyze .epoch "edge" (busyHost 75.0), .analyze .epoch "main" (busyHost 20.0),
   .create .epoch "edge" "1.0" (busyHost 40.0), .remove "edge"]

/-- The first of them alone, a day later. -/
def mainHistory : List Operation :=
  [.create ⟨86400, 0, by decide⟩ "main" "1.0" (busyHost 10.0),
   .analyze ⟨86460, 0, by decide⟩ "main" (busyHost 20.0)]

theorem baselines_independent_shared :
    ∃ result, answer ((run {} sharedHistory).analyze .epoch "main" (busyHost 40.0)) = .ok result ∧
      result.trends.length = 3 ∧
      answer ((run {} mainHistory).analyze .epoch "main" (busyHost 40.0)) = .ok result := by
  have halone := ((baselines_independent {} sharedHistory "main" _ (List.prefix_refl _)).2
    mainHistory rfl).2 .epoch .epoch (busyHost 40.0)
  exact ⟨_, rfl, rfl, halone.symm⟩

end LoadTest.Proofs
