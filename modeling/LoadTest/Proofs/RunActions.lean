import LoadTest.Run.Generator
import Mathlib.Tactic.Lemma

/-!
# The actions of a run

What each action of a run changes. Everything else about a run is told by its trace, which every
action only extends: `note_trace`, `issue_ok`, `record_ok` and so on say by what.
-/

namespace LoadTest.Proofs

section Fields

variable (r : Run) (phase : Phase) (now : Nat)

lemma events_eq_trace : r.events = r.trace.filterMap Note.event? := by
  unfold Run.events Run.trace
  rw [List.filterMap_filter]
  congr 1
  funext n
  cases n <;> rfl

attribute [simp] Run.publish Run.phaseStarted Run.phaseCompleted Run.held Run.burstCompleted
  Run.loadEnded Note.log Note.sampling

@[simp] lemma note_fields (notes : List Note) :
    (r.note notes).setup = r.setup ∧ (r.note notes).runner = r.runner ∧
      (r.note notes).calls = r.calls ∧ (r.note notes).cutShort = r.cutShort ∧
      (r.note notes).abandoned = r.abandoned ∧ (r.note notes).report = r.report ∧
      (r.note notes).stage = r.stage := ⟨rfl, rfl, rfl, rfl, rfl, rfl, rfl⟩

@[simp] lemma note_cooldownCount (notes : List Note) :
    (r.note notes).cooldownCount = r.cooldownCount := rfl

@[simp] lemma note_trace (notes : List Note) :
    (r.note notes).trace = r.trace ++ notes.filter fun n => !n.isLine :=
  List.filter_append ..

@[simp] lemma note_events (notes : List Note) :
    (r.note notes).events = r.events ++ notes.filterMap Note.event? :=
  List.filterMap_append ..

@[simp] lemma trace_runner (runner : Runner) : { r with runner }.trace = r.trace := rfl

@[simp] lemma opened_trace (setup : Setup) (calls : Nat) :
    (Run.opened setup calls now).trace =
      [.event (.runStarted setup.runId setup.spec.name setup.schedule)] := rfl

@[simp] lemma issueBurst_fields (b : Burst) :
    (r.issueBurst b now).setup = r.setup ∧ (r.issueBurst b now).runner = r.runner ∧
      (r.issueBurst b now).calls = r.calls + 1 ∧ (r.issueBurst b now).cutShort = r.cutShort ∧
      (r.issueBurst b now).abandoned = r.abandoned ∧ (r.issueBurst b now).report = r.report :=
  ⟨rfl, rfl, rfl, rfl, rfl, rfl⟩

@[simp] lemma issueBurst_trace (b : Burst) :
    (r.issueBurst b now).trace = r.trace ++ [.issued b.phase b.issued now] := by
  simp [Run.issueBurst, Run.trace]

@[simp] lemma beginHold_fields (level : Float) (deadline : Nat) :
    (r.beginHold phase level deadline now).1.setup = r.setup ∧
      (r.beginHold phase level deadline now).1.calls = r.calls ∧
      (r.beginHold phase level deadline now).1.cutShort = r.cutShort ∧
      (r.beginHold phase level deadline now).1.abandoned = r.abandoned ∧
      (r.beginHold phase level deadline now).1.report = r.report ∧
      (r.beginHold phase level deadline now).1.trace = r.trace ∧
      (r.beginHold phase level deadline now).1.runner.clock = r.runner.clock ∧
      (r.beginHold phase level deadline now).1.runner.nextId = r.runner.nextId ∧
      (r.beginHold phase level deadline now).1.runner.inFlight = r.runner.inFlight ∧
      (r.beginHold phase level deadline now).1.runner.outcomes = r.runner.outcomes ∧
      (r.beginHold phase level deadline now).2.phase = phase ∧
      (r.beginHold phase level deadline now).2.deadline = deadline := by
  unfold Run.beginHold
  cases r.setup.schedule <;> simp [Run.trace]

attribute [simp] Run.beginStep Run.beginFullLoad

@[simp] lemma measured_fields :
    (r.measured now).setup = r.setup ∧ (r.measured now).calls = r.calls ∧
      (r.measured now).cutShort = r.cutShort ∧ (r.measured now).abandoned = r.abandoned ∧
      (r.measured now).report = r.report ∧ (r.measured now).trace = r.trace ∧
      (r.measured now).runner =
        { clock := now, nextId := r.setup.firstId,
          nextProgress := now + r.setup.progressInterval } := by
  unfold Run.measured
  by_cases h : r.setup.settings.sampleResources = true <;> simp [h, Run.note, Run.trace]

@[simp] lemma rampingDown_fields (cutShort : Bool) :
    (r.rampingDown cutShort).setup = r.setup ∧ (r.rampingDown cutShort).calls = r.calls ∧
      (r.rampingDown cutShort).cutShort = cutShort ∧
      (r.rampingDown cutShort).abandoned = r.abandoned ∧
      (r.rampingDown cutShort).report = r.report ∧
      (r.rampingDown cutShort).runner = r.runner := by
  unfold Run.rampingDown
  cases cutShort <;> simp

@[simp] lemma rampingDown_trace (cutShort : Bool) :
    (r.rampingDown cutShort).trace =
      r.trace ++ [.event (.phaseStarted r.setup.runId .rampDown)] := by
  unfold Run.rampingDown
  cases cutShort <;> simp [Run.note, Run.trace]

@[simp] lemma stopSampling_fields :
    (r.stopSampling now).setup = r.setup ∧ (r.stopSampling now).calls = r.calls ∧
      (r.stopSampling now).cutShort = r.cutShort ∧
      (r.stopSampling now).abandoned = r.abandoned ∧ (r.stopSampling now).report = r.report ∧
      (r.stopSampling now).runner = r.runner ∧ (r.stopSampling now).trace = r.trace := by
  unfold Run.stopSampling
  by_cases h : r.setup.settings.sampleResources = true <;> simp [h, Run.note, Run.trace]

@[simp] lemma drained_fields (elapsed : Duration) :
    (r.drained elapsed now).setup = r.setup ∧ (r.drained elapsed now).calls = r.calls ∧
      (r.drained elapsed now).cutShort = r.cutShort ∧
      (r.drained elapsed now).abandoned = r.runner.inFlight ∧
      (r.drained elapsed now).report = r.report ∧
      (r.drained elapsed now).runner = { r.runner with inFlight := [] } := by
  unfold Run.drained
  by_cases h : r.runner.inFlight.isEmpty = true <;> simp [h]

@[simp] lemma drained_trace (elapsed : Duration) :
    (r.drained elapsed now).trace = r.trace ++
      [.event (.phaseCompleted r.setup.runId .rampDown r.runner.outcomes.length)] := by
  unfold Run.drained
  simp only [stopSampling_fields]
  by_cases h : r.runner.inFlight.isEmpty = true <;> simp [h, Run.note, Run.trace]

end Fields

section Outcomes

variable {r r' : Run} {phase : Phase} {now : Nat}

/-- The runner once it has started a request. -/
def issuedRunner (runner : Runner) (call now : Nat) : Runner :=
  { runner with
    nextId := runner.nextId + 1
    inFlight := runner.inFlight ++ [{ id := runner.nextId, call, startedAt := now }] }

/-- The run once it has started a measured request. -/
def issuedRun (r : Run) (phase : Phase) (now : Nat) : Run :=
  { r with
    runner := issuedRunner r.runner r.calls now
    calls := r.calls + 1
    journal := r.journal ++ [.issued phase r.runner.nextId now] }

@[simp] lemma issuedRun_fields (r : Run) (phase : Phase) (now : Nat) :
    (issuedRun r phase now).setup = r.setup ∧
      (issuedRun r phase now).runner = issuedRunner r.runner r.calls now ∧
      (issuedRun r phase now).calls = r.calls + 1 ∧
      (issuedRun r phase now).cutShort = r.cutShort ∧
      (issuedRun r phase now).abandoned = r.abandoned ∧
      (issuedRun r phase now).report = r.report ∧ (issuedRun r phase now).stage = r.stage :=
  ⟨rfl, rfl, rfl, rfl, rfl, rfl, rfl⟩

@[simp] lemma issuedRun_trace (r : Run) (phase : Phase) (now : Nat) :
    (issuedRun r phase now).trace = r.trace ++ [.issued phase r.runner.nextId now] := by
  simp [issuedRun, Run.trace]

lemma issue_ok (h : r.issue phase now = .ok r') :
    r.runner.nextId + 1 < wordLimit ∧ r' = issuedRun r phase now := by
  obtain ⟨runner, hrunner, hr⟩ := bind_eq_ok.1 h
  unfold Runner.issue at hrunner
  by_cases hlimit : r.runner.nextId + 1 < wordLimit
  · rw [if_pos hlimit] at hrunner
    cases hrunner
    cases hr
    exact ⟨hlimit, rfl⟩
  · rw [if_neg hlimit] at hrunner
    cases hrunner

lemma arrive_ok (h : r.arrive phase now = .ok r') :
    (r.runner.isFull r.setup.spec.maxInFlight = true ∧
      r' = { r with runner := { r.runner with skipped := r.runner.skipped + 1 } }.note
        [.log .debug "In-flight cap reached, skipping arrival"]) ∨
    (r.runner.isFull r.setup.spec.maxInFlight = false ∧ r.runner.nextId + 1 < wordLimit ∧
      r' = issuedRun r phase now) := by
  unfold Run.arrive at h
  by_cases hfull : r.runner.isFull r.setup.spec.maxInFlight = true
  · rw [if_pos hfull] at h
    cases h
    exact .inl ⟨hfull, rfl⟩
  · rw [if_neg hfull] at h
    exact .inr ⟨by simpa using hfull, issue_ok h⟩

/-- One of the requests in flight is recorded. -/
def Settles (runner runner' : Runner) : Prop :=
  ∃ p ∈ runner.inFlight, ∃ o : Outcome, o.id = p.id ∧
    runner' = { runner with
      inFlight := runner.inFlight.filter fun q => q.id ≠ p.id
      outcomes := runner.outcomes ++ [o] }

lemma settled_id {id : Nat} {startedAt : Timestamp} {duration : Duration}
    {failure : Option RequestFailure} {o : Outcome}
    (h : Outcome.settled id startedAt duration failure = .ok o) : o.id = id := by
  obtain ⟨_, _, ho⟩ := bind_eq_ok.1 h
  cases ho
  rfl

lemma runner_record_ok {runner runner' : Runner} {wall : Nat → Timestamp} {timeout : Duration}
    {s : Settlement} (h : runner.record wall timeout now s = .ok runner') :
    runner' = runner ∨ Settles runner runner' := by
  unfold Runner.record at h
  cases hfind : runner.inFlight.find? fun p => p.id = s.id with
  | none =>
    rw [hfind] at h
    cases h
    exact .inl rfl
  | some p =>
    rw [hfind] at h
    obtain ⟨duration, _, h⟩ := bind_eq_ok.1 h
    obtain ⟨o, ho, h⟩ := bind_eq_ok.1 h
    cases h
    have hid : p.id = s.id := by simpa using List.find?_some hfind
    exact .inr ⟨p, List.mem_of_find?_eq_some hfind, o, settled_id ho, by rw [hid]⟩

lemma ending_notes_filter (e : Ending) : (e.notes.filter fun n => !n.isLine) = [] := by
  unfold Ending.notes
  split <;> simp

lemma record_ok {settled : Option Settlement} (h : r.record now settled = .ok r') :
    ∃ runner notes, (notes.filter fun n => !n.isLine) = [] ∧
      r' = { r with runner }.note notes ∧ (runner = r.runner ∨ Settles r.runner runner) := by
  cases settled with
  | none =>
    cases h
    exact ⟨r.runner, [], rfl, by simp [Run.note], .inl rfl⟩
  | some s =>
    obtain ⟨runner, hrunner, h⟩ := bind_eq_ok.1 h
    cases h
    exact ⟨runner, s.ending.notes, ending_notes_filter s.ending, rfl, runner_record_ok hrunner⟩

lemma clockReading_eq_ok {t t' : Nat} : clockReading t = .ok t' ↔ t < clockLimit ∧ t' = t := by
  unfold clockReading
  constructor
  · intro h
    split at h
    · next hlt =>
      cases h
      exact ⟨hlt, rfl⟩
    · cases h
  · rintro ⟨hlt, rfl⟩
    exact if_pos hlt

lemma reportProgress_ok (h : r.reportProgress phase now = .ok r') :
    (now < r.runner.nextProgress ∧ r' = r) ∨
    (r.runner.nextProgress ≤ now ∧
      ∃ elapsed nextProgress, Duration.between r.runner.clock now = .ok elapsed ∧
        clockReading (firstPast r.setup.progressInterval r.setup.progressInterval_pos now
          r.runner.nextProgress) = .ok nextProgress ∧
        r' = { r with runner := { r.runner with nextProgress } }.publish
          (.progress r.setup.runId phase r.runner.outcomes.length r.runner.inFlight.length
            elapsed)) := by
  unfold Run.reportProgress at h
  by_cases hdue : now < r.runner.nextProgress
  · rw [if_pos hdue] at h
    cases h
    exact .inl ⟨hdue, rfl⟩
  · rw [if_neg hdue] at h
    obtain ⟨nextProgress, hnext, h⟩ := bind_eq_ok.1 h
    obtain ⟨elapsed, helapsed, h⟩ := bind_eq_ok.1 h
    cases h
    exact .inr ⟨Nat.not_lt.1 hdue, elapsed, nextProgress, helapsed, hnext, rfl⟩

lemma lt_firstPast (interval : Nat) (positive : 0 < interval) (now t : Nat) :
    now < firstPast interval positive now t := by
  fun_induction firstPast interval positive now t with
  | case1 t hdue ih => exact ih
  | case2 t hdue => omega

/-- A run can check its progress unless the next report would be due past the limit of the clock. -/
lemma exists_reportProgress (r : Run) (phase : Phase) (now : Nat) :
    (∃ r', r.reportProgress phase now = .ok r') ↔ now < r.runner.nextProgress ∨
      firstPast r.setup.progressInterval r.setup.progressInterval_pos now r.runner.nextProgress <
        clockLimit := by
  constructor
  · rintro ⟨r', h⟩
    obtain ⟨hearly, -⟩ | ⟨-, _, _, -, hnext, -⟩ := reportProgress_ok h
    · exact .inl hearly
    · exact .inr (clockReading_eq_ok.1 hnext).1
  · intro h
    unfold Run.reportProgress
    by_cases hearly : now < r.runner.nextProgress
    · rw [if_pos hearly]
      exact ⟨r, rfl⟩
    · have hlimit := h.resolve_left hearly
      have hpast := lt_firstPast r.setup.progressInterval r.setup.progressInterval_pos now
        r.runner.nextProgress
      have hfits : now - r.runner.clock < wordLimit * 1000000000 := by
        unfold clockLimit at hlimit
        unfold wordLimit
        omega
      rw [if_neg hearly, clockReading_eq_ok.2 ⟨hlimit, rfl⟩, Duration.between, Duration.ofNanos?,
        dif_pos hfits]
      exact ⟨_, rfl⟩

lemma record_kept {settled : Option Settlement} (h : r.record now settled = .ok r') :
    r'.setup = r.setup ∧ r'.stage = r.stage := by
  obtain ⟨_, _, _, rfl, _⟩ := record_ok h
  exact ⟨rfl, rfl⟩

lemma reportProgress_kept (h : r.reportProgress phase now = .ok r') :
    r'.setup = r.setup ∧ r'.stage = r.stage := by
  obtain ⟨_, rfl⟩ | ⟨_, _, _, _, _, rfl⟩ := reportProgress_ok h
  · exact ⟨rfl, rfl⟩
  · exact ⟨rfl, rfl⟩

/-- A run goes on from `r` to `r'` with requests of a phase that it starts at `now`. -/
structure Starts (phase : Phase) (now : Nat) (r r' : Run) : Prop where
  stage : r'.stage = r.stage
  trace : ∃ started, r'.trace = r.trace ++ started ∧
    ∀ n ∈ started, ∃ id, n = .issued phase id now

lemma Starts.of_trace (hstage : r'.stage = r.stage) (htrace : r'.trace = r.trace) :
    Starts phase now r r' :=
  ⟨hstage, [], by rw [htrace, List.append_nil], by simp⟩

lemma Starts.trans {r₁ : Run} (h : Starts phase now r r₁) (h' : Starts phase now r₁ r') :
    Starts phase now r r' := by
  obtain ⟨hstage, started, htrace, hstarted⟩ := h
  obtain ⟨hstage', started', htrace', hstarted'⟩ := h'
  refine ⟨hstage'.trans hstage, started ++ started', ?_, ?_⟩
  · rw [htrace', htrace, List.append_assoc]
  · intro n hn
    obtain hn | hn := List.mem_append.1 hn
    · exact hstarted n hn
    · exact hstarted' n hn

lemma starts_issue (h : r.issue phase now = .ok r') : Starts phase now r r' := by
  obtain ⟨_, rfl⟩ := issue_ok h
  exact ⟨rfl, _, issuedRun_trace r phase now, by simp⟩

lemma starts_issueMany {n : Nat} (h : r.issueMany phase now n = .ok r') :
    Starts phase now r r' := by
  induction n generalizing r with
  | zero =>
    cases h
    exact .of_trace rfl rfl
  | succ n ih =>
    obtain ⟨r₁, hissue, h⟩ := bind_eq_ok.1 h
    exact (starts_issue hissue).trans (ih h)

lemma starts_arrive (h : r.arrive phase now = .ok r') : Starts phase now r r' := by
  unfold Run.arrive at h
  split at h
  · cases h
    exact .of_trace rfl (by simp)
  · exact starts_issue h

lemma starts_catchUp {interval deadline next next' : Nat}
    (h : r.catchUp phase interval deadline now next = .ok (r', next')) :
    Starts phase now r r' := by
  fun_induction Run.catchUp r phase interval deadline now next with
  | case1 => cases h
  | case2 r next _ _ r₁ harrive ih => exact (starts_arrive harrive).trans (ih h)
  | case3 => cases h
  | case4 =>
    cases h
    exact .of_trace rfl rfl

/-- All that is started for a held level is a request of its phase. -/
lemma starts_issueDue {hold : Hold} (h : r.issueDue hold now = .ok r') :
    Starts hold.phase now r r' := by
  unfold Run.issueDue at h
  split at h
  · exact starts_issueMany h
  · obtain ⟨⟨r₁, next⟩, hcatch, h⟩ := bind_eq_ok.1 h
    cases h
    exact (starts_catchUp hcatch).trans (.of_trace rfl rfl)

lemma inFlight_issueMany {n : Nat} (h : r.issueMany phase now n = .ok r') :
    r'.runner.inFlight.length = r.runner.inFlight.length + n := by
  induction n generalizing r with
  | zero =>
    cases h
    rfl
  | succ n ih =>
    obtain ⟨r₁, hissue, h⟩ := bind_eq_ok.1 h
    obtain ⟨_, rfl⟩ := issue_ok hissue
    rw [ih h]
    simp only [issuedRun_fields, issuedRunner, List.length_append, List.length_singleton]
    omega

/-- Every freed slot is refilled. -/
lemma le_inFlight_issueDue {hold : Hold} {level : Nat} (hpace : hold.pace = .concurrency level)
    (h : r.issueDue hold now = .ok r') : level ≤ r'.runner.inFlight.length := by
  simp only [Run.issueDue, hpace] at h
  have hlength := inFlight_issueMany h
  omega

@[simp] lemma completed_fields (r : Run) (report : Report) :
    (r.completed report).setup = r.setup ∧ (r.completed report).calls = r.calls ∧
      (r.completed report).cutShort = r.cutShort ∧
      (r.completed report).abandoned = r.abandoned ∧ (r.completed report).runner = r.runner ∧
      (r.completed report).report = some report ∧ (r.completed report).stage = .finished := by
  unfold Run.completed
  by_cases h : (r.setup.sampler.leak? r.resourceSamples).any LeakReport.suspected = true <;>
    simp [h]

@[simp] lemma completed_trace (r : Run) (report : Report) :
    (r.completed report).trace = r.trace ++ [.event (.runCompleted r.setup.runId
      report.totalRequests report.errorRate r.cutShort)] := by
  unfold Run.completed
  by_cases h : (r.setup.sampler.leak? r.resourceSamples).any LeakReport.suspected = true <;>
    simp [h, Run.note, Run.trace]

@[simp] lemma completed_cooldownCount (r : Run) (report : Report) :
    (r.completed report).cooldownCount = r.cooldownCount := by
  simp [Run.cooldownCount]

/-- A report counts the outcomes of the run, and what it abandoned. -/
lemma account_report_ok {report : Report} (h : r.account.report = .ok report) :
    report.totalRequests = r.runner.outcomes.length ∧
      report.abandonedRequests = r.abandoned.length := by
  obtain ⟨throughput, -, rfl⟩ := RunRecord.report_eq_ok.1 h
  exact ⟨rfl, rfl⟩

lemma complete_ok (h : r.complete = .ok r') :
    ∃ report, r.account.report = .ok report ∧ r' = r.completed report := by
  obtain ⟨report, hreport, h⟩ := bind_eq_ok.1 h
  cases h
  exact ⟨report, hreport, rfl⟩

end Outcomes

end LoadTest.Proofs
