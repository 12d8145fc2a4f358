import LoadTest.Proofs.BaselineIndependence

/-!
# The history of an analyzer

An analyzer that is kept answers one operation after the other. Its history holds the results of the
analyses since it was last cleared. An analysis fails if there is no baseline of its name, and then
leaves the analyzer as it was.
-/

namespace LoadTest.Proofs

namespace Operation

/-- What an analysis answers. Other operations answer nothing that a history could hold. -/
abbrev Answer := Option (Except Failure AnalysisResult)

def perform : Operation → StateM Analyzer Answer
  | .create now name version measurements =>
    modifyGet fun a => (none, (a.createBaseline now name version measurements).2)
  | .remove name => modifyGet fun a => (none, (a.removeBaseline name).2)
  | .analyze now name current => some <$> (Analyzer.analyzeM now name current).run
  | .clearHistory => modifyGet fun a => (none, a.clearHistory)
  | .clearBaselines => modifyGet fun a => (none, a.clearBaselines)

/-- The answers to some operations on one analyzer, and the analyzer after them. -/
def session (settings : AnalyzerSettings) (ops : List Operation) : List Answer × Analyzer :=
  (ops.mapM perform).run { settings }

def clearsHistory : Operation → Bool
  | .clearHistory => true
  | _ => false

def Answer.result? (answer : Answer) : Option AnalysisResult := answer.bind Except.toOption

/-- The results that analyses returned since the history was last cleared. -/
def resultsSince (answered : List (Operation × Answer)) : List AnalysisResult :=
  (answered.rtakeWhile fun (op, _) => !op.clearsHistory).filterMap fun (_, answer) => answer.result?

end Operation

open Operation

section Analyses

variable (a : Analyzer) (now : Timestamp) (name : String) (current : Measurements)

lemma storedM_run : (Analyzer.storedM name).run.run a =
    (match a.baselines.get? name with
      | some b => .ok b
      | none => .error (.baselineNotFound name), a) := by
  have hmatch : ∀ found : Option Baseline,
      (match found with
        | some b => pure b
        | none => throw (.baselineNotFound name) :
        ExceptT Failure (StateM Analyzer) Baseline).run.run a =
      (match found with
        | some b => .ok b
        | none => .error (.baselineNotFound name), a) := by
    intro found
    cases found <;> rfl
  exact hmatch _

/-- An analyzer that is kept is acted on as the analysis says, and keeps its state on a failure. -/
lemma analyzeM_run : (Analyzer.analyzeM now name current).run.run a =
    match a.analyze now name current with
    | .ok (result, a') => (.ok result, a')
    | .error failure => (.error failure, a) := by
  simp only [Analyzer.analyzeM, ExceptT.run_bind, StateT.run_bind]
  rw [storedM_run]
  unfold Analyzer.analyze
  cases a.baselines.get? name with
  | none => rfl
  | some b => rfl

end Analyses

/-- What an analysis of a name may do to an analyzer. -/
structure Atomic (a : Analyzer) (name : String) (answer : Except Failure AnalysisResult)
    (a' : Analyzer) : Prop where
  fails_iff : (∃ failure, answer = .error failure) ↔ a.baseline? name = none
  failed : ∀ failure, answer = .error failure → failure = .baselineNotFound name ∧ a' = a
  succeeded : ∀ result, answer = .ok result → a'.baselines = a.baselines ∧
    ∀ other, other ≠ name → a'.series.get? other = a.series.get? other

lemma analyzeM_atomic (a : Analyzer) (now : Timestamp) (name : String) (current : Measurements) :
    Atomic a name ((Analyzer.analyzeM now name current).run.run a).1
      ((Analyzer.analyzeM now name current).run.run a).2 := by
  rw [analyzeM_run]
  cases hanalyze : a.analyze now name current with
  | error failure =>
    obtain ⟨hnone, rfl⟩ := analyze_eq_error.1 hanalyze
    refine ⟨iff_of_true ⟨_, rfl⟩ hnone, ?_, ?_⟩
    · rintro _ ⟨⟩
      exact ⟨rfl, rfl⟩
    · rintro _ ⟨⟩
  | ok pair =>
    obtain ⟨result, a'⟩ := pair
    obtain ⟨b, hb, -, rfl⟩ := analyze_eq_ok.1 hanalyze
    refine ⟨iff_of_false (by rintro ⟨_, ⟨⟩⟩) (by simp [hb]), by rintro _ ⟨⟩, ?_⟩
    rintro _ -
    refine ⟨rfl, ?_⟩
    intro other hother
    exact (get?_insert ..).trans (if_neg hother)

section Sessions

variable (settings : AnalyzerSettings) (ops : List Operation) (op : Operation)

lemma perform_run (a : Analyzer) : ((perform op).run a).2 = apply a op := by
  cases op with
  | analyze now name current =>
    change ((Analyzer.analyzeM now name current).run.run a).2 = apply a (.analyze now name current)
    rw [analyzeM_run, apply]
    cases a.analyze now name current <;> rfl
  | _ => rfl

lemma perform_history (a : Analyzer) : ((perform op).run a).2.history =
    if op.clearsHistory then [] else a.history ++ ((perform op).run a).1.result?.toList := by
  cases op with
  | analyze now name current =>
    change ((Analyzer.analyzeM now name current).run.run a).2.history = a.history ++
      (Answer.result? (some ((Analyzer.analyzeM now name current).run.run a).1)).toList
    rw [analyzeM_run]
    cases hanalyze : a.analyze now name current with
    | error failure => exact (List.append_nil _).symm
    | ok pair =>
      obtain ⟨result, a'⟩ := pair
      obtain ⟨b, -, -, rfl⟩ := analyze_eq_ok.1 hanalyze
      rfl
  | clearHistory => rfl
  | _ => exact (List.append_nil _).symm

lemma session_append : session settings (ops ++ [op]) =
    ((session settings ops).1 ++ [((perform op).run (session settings ops).2).1],
      ((perform op).run (session settings ops).2).2) := by
  unfold session
  rw [List.mapM_append]
  rfl

lemma length_answers : (session settings ops).1.length = ops.length := by
  induction ops using List.reverseRecOn with
  | nil => rfl
  | append_singleton ops op ih =>
    rw [session_append, List.length_append, List.length_append, ih]
    rfl

/-- A session goes through the states of a history of operations. -/
lemma session_analyzer : (session settings ops).2 = run settings ops := by
  induction ops using List.reverseRecOn with
  | nil => rfl
  | append_singleton ops op ih =>
    have hrun : run settings (ops ++ [op]) = apply (run settings ops) op := List.foldl_concat ..
    rw [session_append, perform_run, ih, hrun]

lemma session_history : (session settings ops).2.history =
    resultsSince (ops.zip (session settings ops).1) := by
  -- On the last operation, since `resultsSince` reads the session from its end.
  induction ops using List.reverseRecOn with
  | nil => rfl
  | append_singleton ops op ih =>
    rw [session_append, perform_history, List.zip_append (length_answers settings ops).symm]
    unfold resultsSince
    rw [List.zip_cons_cons, List.zip_nil_left, List.rtakeWhile_concat]
    by_cases hclears : op.clearsHistory = true
    · simp [hclears]
    · rw [if_neg hclears, if_pos (by simpa using hclears), List.filterMap_append, ih]
      rfl

end Sessions

/-- After any operations the history holds the results that analyses have returned since it was last
cleared, in order. An analysis then fails if and only if no baseline of its name is stored, with a
failure that tells the name, and leaves the whole analyzer as it was. If it succeeds, it changes no
baseline and no series of another name. -/
theorem history_holds_results (settings : AnalyzerSettings) (ops : List Operation) :
    (session settings ops).2 = run settings ops ∧
    (session settings ops).2.history = resultsSince (ops.zip (session settings ops).1) ∧
    ∀ now name current, Atomic (session settings ops).2 name
      ((Analyzer.analyzeM now name current).run.run (session settings ops).2).1
      ((Analyzer.analyzeM now name current).run.run (session settings ops).2).2 := by
  refine ⟨session_analyzer settings ops, session_history settings ops, ?_⟩
  intro now name current
  exact analyzeM_atomic (session settings ops).2 now name current

/-- A history that is cleared after one analysis, with two analyses of the baseline and one of an
unknown name after that. -/
def clearedSession : List Operation :=
  [.create .epoch "main" "1.0" (busyHost 10.0), .analyze .epoch "main" (busyHost 20.0),
   .clearHistory, .analyze .epoch "main" (busyHost 30.0), .analyze .epoch "edge" (busyHost 30.0),
   .analyze .epoch "main" (busyHost 40.0), .clearBaselines]

theorem history_holds_results_cleared :
    ∃ r₀ r₁ r₂, (session {} clearedSession).1 =
        [none, some (.ok r₀), none, some (.ok r₁), some (.error (.baselineNotFound "edge")),
          some (.ok r₂), none] ∧
      (session {} clearedSession).2.history = [r₁, r₂] ∧
      ((Analyzer.analyzeM .epoch "main" (busyHost 50.0)).run.run (session {} clearedSession).2).2 =
        (session {} clearedSession).2 := by
  obtain ⟨-, hhistory, hatomic⟩ := history_holds_results {} clearedSession
  refine ⟨_, _, _, rfl, hhistory.trans rfl, ?_⟩
  exact ((hatomic .epoch "main" (busyHost 50.0)).failed _ rfl).2

end LoadTest.Proofs
