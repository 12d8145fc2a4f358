import LoadTest.Proofs.ArrivalAccounting
import LoadTest.Proofs.Cancellation
import LoadTest.Proofs.RampTiling

/-!
# The deadlines of holds

A run holds each level of its load until a deadline: a step of the rise until a time after the rise
began, and the full load for its duration. Each time the run is woken it first ends the holds whose
deadlines are over. Then it starts requests for the level at which it waits again, so that no
measured request is started at or after the deadline of its hold. A run that is not cut short holds
every level to the end. It lasts at least as long as its rise and its full load together, however
late it is woken.
-/

namespace LoadTest.Proofs

/-! ### Requests and holds in an answer -/

/-- The steps that a run rises by. -/
def rampPlan (setup : Setup) : Except Fault (List RampStep) :=
  setup.schedule.rampSteps setup.spec.rampUp setup.settings.maxRampSteps

/-- A rise goes on with some steps: it did so before, or it begins now. -/
def RisesBy (setup : Setup) (before : Option Stage) (now start : ℕ) (steps : List RampStep) :
    Prop :=
  (∃ hold, before = some (.rampUp hold start steps)) ∨ start = now ∧ rampPlan setup = .ok steps

/-- How a run that was woken at `now` comes to wait in a stage. It waited there before, or it begins
to hold a level, until a deadline that is still to come. The steps of the rise that it passed over
were over when they began. -/
inductive HeldFrom (setup : Setup) (before : Option Stage) (now : ℕ) : Stage → Prop where
  | unheld {stage : Stage} (h : stage.hold? = none) : HeldFrom setup before now stage
  | kept {stage : Stage} (h : before = some stage) : HeldFrom setup before now stage
  | step {hold : Hold} {start : ℕ} {passed later : List RampStep} {step : RampStep}
    (hrise : RisesBy setup before now start (passed ++ step :: later))
    (hpassed : ∀ p ∈ passed, start + p.finish.nanos ≤ now)
    (hdeadline : hold.deadline = start + step.finish.nanos) (hlasts : now < hold.deadline) :
    HeldFrom setup before now (.rampUp hold start later)
  | fullLoad {hold : Hold} (hdeadline : hold.deadline = now + setup.spec.duration.nanos)
    (hlasts : now < hold.deadline) : HeldFrom setup before now (.sustained hold)

/-- What a run does about its load in answer to a signal at `now`, from a trace and a stage. Holds
end first; the measured requests come after them and belong to the hold in which the run waits then,
whose deadline is still to come. -/
structure InTime (setup : Setup) (before : Option Stage) (now : ℕ) (trace : List Note) (r : Run) :
    Prop where
  admitted : ∃ ended started, r.trace = trace ++ ended ++ started ∧ measuredIds ended = [] ∧
    ∀ n ∈ started, ∃ hold id, r.stage.hold? = some hold ∧ now < hold.deadline ∧
      n = .issued hold.phase id now
  held : HeldFrom setup before now r.stage

/-- What a place of its course tells of the hold that a run keeps or comes to. The steps of the rise
in `passed` are over. -/
def Founded (setup : Setup) (before : Option Stage) (now : ℕ) : Place → Prop
  | .measuring steps => rampPlan setup = .ok steps
  | .rising start later => ∃ passed, RisesBy setup before now start (passed ++ later) ∧
    ∀ p ∈ passed, start + p.finish.nanos ≤ now
  | .within (.rampUp hold start later) => before = some (.rampUp hold start later) ∨
    ∃ passed step, RisesBy setup before now start (passed ++ step :: later) ∧
      (∀ p ∈ passed, start + p.finish.nanos ≤ now) ∧ hold.deadline = start + step.finish.nanos
  | .within (.sustained hold) => before = some (.sustained hold) ∨
    hold.deadline = now + setup.spec.duration.nanos
  | .within (.burst b) => b.phase.isMeasured = false
  | _ => True

/-- The trace of a run goes on from `trace` without a measured request. -/
def IdleSince (trace : List Note) (r : Run) : Prop :=
  ∃ notes, r.trace = trace ++ notes ∧ measuredIds notes = []

section Idle

variable {trace : List Note} {r r' : Run} {now : ℕ} {cancelled : Bool} {phase : Phase}

lemma IdleSince.refl (r : Run) : IdleSince r.trace r := ⟨[], (List.append_nil _).symm, rfl⟩

lemma IdleSince.of_append {notes : List Note} (h : IdleSince trace r)
    (htrace : r'.trace = r.trace ++ notes) (hnotes : measuredIds notes = []) :
    IdleSince trace r' := by
  obtain ⟨earlier, hearlier, hnone⟩ := h
  refine ⟨earlier ++ notes, ?_, ?_⟩
  · rw [htrace, hearlier, List.append_assoc]
  · rw [measuredIds_append, hnone, hnotes, List.append_nil]

lemma IdleSince.of_trace (h : IdleSince trace r) (htrace : r'.trace = r.trace) :
    IdleSince trace r' :=
  h.of_append (htrace.trans (List.append_nil _).symm) rfl

lemma IdleSince.note (h : IdleSince trace r) {notes : List Note}
    (hnotes : measuredIds (notes.filter fun n => !n.isLine) = []) :
    IdleSince trace (r.note notes) :=
  h.of_append (note_trace r notes) hnotes

lemma idle_record {settled : Option Settlement} (h : IdleSince trace r)
    (hr : r.record now settled = .ok r') : IdleSince trace r' := by
  obtain ⟨runner, notes, hnotes, rfl, -⟩ := record_ok hr
  refine h.of_trace ?_
  simp [hnotes]

lemma idle_reportProgress (h : IdleSince trace r) (hr : r.reportProgress phase now = .ok r') :
    IdleSince trace r' := by
  obtain ⟨-, rfl⟩ | ⟨-, _, _, -, -, rfl⟩ := reportProgress_ok hr
  · exact h
  · exact (h.of_trace rfl).note rfl

end Idle

section Answers

variable {setup : Setup} {before : Option Stage} {trace : List Note} {calls now : ℕ}
  {cancelled : Bool} {r r' : Run}

lemma past_eq {d : Duration} {t deadline : ℕ} (h : d.past t = .ok deadline) :
    deadline = t + d.nanos := (clockReading_eq_ok.1 h).2

lemma InTime.of_idle (h : IdleSince trace r) (hheld : HeldFrom setup before now r.stage) :
    InTime setup before now trace r := by
  obtain ⟨notes, htrace, hnone⟩ := h
  exact ⟨⟨notes, [], by rw [htrace, List.append_nil], hnone, nofun⟩, hheld⟩

lemma InTime.of_issueDue {stage : Stage} {hold : Hold} (h : IdleSince trace r)
    (hhold : stage.hold? = some hold) (hlasts : now < hold.deadline)
    (hheld : HeldFrom setup before now stage) (hr : r.issueDue hold now = .ok r') :
    InTime setup before now trace { r' with stage } := by
  obtain ⟨notes, htrace, hnone⟩ := h
  obtain ⟨started, hissued, hstarted⟩ := (starts_issueDue hr).trace
  refine ⟨⟨notes, started, ?_, hnone, ?_⟩, hheld⟩
  · rw [← htrace]
    exact hissued
  · intro n hn
    obtain ⟨id, rfl⟩ := hstarted n hn
    exact ⟨hold, id, hhold, hlasts, rfl⟩

/-- A level that a place tells of is held from now on, if its deadline is still to come. -/
lemma Founded.heldFrom {stage : Stage} {hold : Hold} (h : Founded setup before now (.within stage))
    (hhold : stage.hold? = some hold) (hlasts : now < hold.deadline) :
    HeldFrom setup before now stage := by
  cases stage with
  | rampUp =>
    cases hhold
    obtain hkept | ⟨passed, step, hrise, hpassed, hdeadline⟩ := h
    · exact .kept hkept
    · exact .step hrise hpassed hdeadline hlasts
  | sustained =>
    cases hhold
    obtain hkept | hdeadline := h
    · exact .kept hkept
    · exact .fullLoad hdeadline hlasts
  | _ => cases hhold

lemma founded_of_hold {stage : Stage} {hold : Hold} (hhold : stage.hold? = some hold) :
    Founded setup (some stage) now (.within stage) := by
  cases stage with
  | rampUp | sustained => exact .inl rfl
  | _ => cases hhold

/-- A step that is over has been passed. -/
lemma Founded.endStep {hold : Hold} {start : ℕ} {later : List RampStep}
    (h : Founded setup before now (.within (.rampUp hold start later)))
    (hover : hold.deadline ≤ now) : Founded setup before now (.rising start later) := by
  obtain hkept | ⟨passed, step, hrise, hpassed, hdeadline⟩ := h
  · exact ⟨[], .inl ⟨hold, hkept⟩, List.forall_mem_nil _⟩
  · rw [List.append_cons] at hrise
    refine ⟨passed ++ [step], hrise, ?_⟩
    exact List.forall_mem_append.2 ⟨hpassed, List.forall_mem_singleton.2 (hdeadline ▸ hover)⟩

/-- A run starts no measured request before it comes to the hold in which it waits. -/
lemma inTime_proceeds {place : Place} (h : Proceeds setup now cancelled place r r')
    (hidle : IdleSince trace r) (hplace : Founded setup before now place) :
    InTime setup before now trace r' := by
  induction h with
  | skipWarmup _ _ ih | skipCooldown _ _ ih | skipRise _ ih => exact ih hidle trivial
  | beginWarmup _ _ ih | beginCooldown _ _ ih => exact ih (hidle.note rfl) rfl
  | issueBurst _ _ ih =>
    exact ih (hidle.of_append (issueBurst_trace ..) (burstIds_issued hplace _ _).1) hplace
  | awaitBurst | awaitRampDown => exact .of_idle (hidle.of_trace rfl) (.unheld rfl)
  | endWarmup _ _ _ _ ih | endCooldown _ _ _ _ ih => exact ih ((hidle.note rfl).note rfl) trivial
  | beginMeasured hsteps _ ih => exact ih (hidle.of_trace (by simp)) hsteps
  | beginRise _ _ ih => exact ih (hidle.note rfl) ⟨[], .inr ⟨rfl, hplace⟩, List.forall_mem_nil _⟩
  | @beginStep start deadline step _ r _ hdeadline _ ih =>
    obtain ⟨passed, hrise, hpassed⟩ := hplace
    have hlogged : IdleSince trace (r.note [.log .debug "Ramp-up step"]) := hidle.note rfl
    have hbegun : (r.beginStep step deadline now).2.deadline = deadline := by simp
    refine ih (hlogged.of_trace (by simp)) (.inr ⟨passed, step, hrise, hpassed, ?_⟩)
    rw [hbegun, past_eq hdeadline]
  | @beginSustained deadline r _ hdeadline _ ih =>
    have hstarted : IdleSince trace (r.phaseStarted .sustained) := hidle.note rfl
    have hbegun : (r.beginFullLoad deadline now).2.deadline = deadline := by simp
    refine ih (hstarted.of_trace (by simp)) (.inr ?_)
    rw [hbegun, past_eq hdeadline]
  | beginRampDown _ _ ih => exact ih (hidle.of_append (rampingDown_trace ..) rfl) trivial
  | awaitHold _ hhold hlasts hdue =>
    exact .of_issueDue hidle hhold hlasts (hplace.heldFrom hhold hlasts) hdue
  | endStep _ hover _ ih => exact ih (hidle.note rfl) (hplace.endStep hover)
  | endRise _ ih => exact ih (hidle.note rfl) trivial
  | cutRise _ _ ih | cutSustained _ _ ih => exact ih ((hidle.note rfl).note rfl) trivial
  | endSustained _ _ _ ih => exact ih ((hidle.note rfl).note rfl) trivial
  | endRampDown _ _ _ ih => exact ih (hidle.of_append (drained_trace ..) rfl) trivial
  | complete hcomplete =>
    obtain ⟨report, -, rfl⟩ := complete_ok hcomplete
    exact .of_idle (hidle.of_append (completed_trace ..) rfl) (.unheld (by simp [Stage.hold?]))

lemma inTime_start (hr : Run.start setup calls cancelled now = .ok r) :
    InTime setup none now [] r :=
  inTime_proceeds (proceeds_start hr) ⟨_, opened_trace now setup calls, rfl⟩ trivial

lemma inTime_step {s : Signal} (hpasses : Passes setup calls (.within r.stage) now cancelled r)
    (hr : r.step s = .ok r') : InTime setup (some r.stage) s.now r.trace r' := by
  obtain rfl := passes_setup hpasses
  cases answers_step hr with
  | idle | finished => exact .of_idle (.refl r) (.kept rfl)
  | settle hstage _ hproceeds =>
    rw [hstage] at hpasses
    have hphase := isMeasured_of_burst (passes_wellFormed hpasses)
    refine inTime_proceeds hproceeds ((IdleSince.refl r).note ?_) hphase
    rw [ending_notes_filter]
    rfl
  | cut hhold _ hproceeds => exact inTime_proceeds hproceeds (.refl r) (founded_of_hold hhold)
  | wake hhold _ hrecord hreport hproceeds =>
    have hidle := idle_reportProgress (idle_record (.refl r) hrecord) hreport
    exact inTime_proceeds hproceeds hidle (founded_of_hold hhold)
  | drain hstage hrecord hproceeds =>
    rw [hstage] at hproceeds
    exact inTime_proceeds hproceeds (idle_record (.refl r) hrecord) trivial

end Answers

/-! ### Requests and the deadline of the full load -/

/-- Signals take a run from one state to another. The clock does not run backwards, and what is
cancelled stays so. -/
inductive Onward (now : ℕ) (cancelled : Bool) (r : Run) : ℕ → Bool → Run → Prop where
  | refl : Onward now cancelled r now cancelled r
  | step {now₁ : ℕ} {cancelled₁ : Bool} {r₁ r₂ : Run} {s : Signal}
    (h : Onward now cancelled r now₁ cancelled₁ r₁) (hnow : now₁ ≤ s.now)
    (hcancelled : cancelled₁ = true → s.cancelled = true) (hstep : r₁.step s = .ok r₂) :
    Onward now cancelled r s.now s.cancelled r₂

/-- The measured requests of a run were started before a reading of the clock. -/
def StartedBefore (deadline : ℕ) (r : Run) : Prop :=
  ∀ phase id time, (phase, id, time) ∈ requestsStarted r → phase.isMeasured = true → time < deadline

section FullLoad

variable {setup : Setup} {before : Option Stage} {calls now now' : ℕ} {cancelled cancelled' : Bool}
  {r r' : Run} {hold : Hold}

lemma not_measured_of_mem {notes : List Note} {phase : Phase} {id time : ℕ}
    (h : measuredIds notes = []) (hmem : .issued phase id time ∈ notes) :
    phase.isMeasured = false := by
  by_contra hmeasured
  have hnone := List.filterMap_eq_nil_iff.1 h _ hmem
  simp [startedId?, hmeasured] at hnone

/-- A measured request is an old one, or it was started now for the hold in which the run waits. -/
lemma InTime.mem_requestsStarted {phase : Phase} {id time : ℕ}
    (h : InTime setup before now r.trace r') (hmem : (phase, id, time) ∈ requestsStarted r')
    (hmeasured : phase.isMeasured = true) :
    (phase, id, time) ∈ requestsStarted r ∨
      ∃ hold, r'.stage.hold? = some hold ∧ time = now ∧ now < hold.deadline := by
  obtain ⟨ended, started, htrace, hnone, hstarted⟩ := h.admitted
  obtain ⟨n, hn, hrequest⟩ := List.mem_filterMap.1 hmem
  obtain rfl : n = .issued phase id time := by
    cases n with
    | issued =>
      cases hrequest
      rfl
    | _ => cases hrequest
  rw [htrace, List.mem_append, List.mem_append] at hn
  obtain (hn | hn) | hn := hn
  · exact .inl (List.mem_filterMap.2 ⟨_, hn, rfl⟩)
  · rw [not_measured_of_mem hnone hn] at hmeasured
    cases hmeasured
  · obtain ⟨hold, id', hhold, hlasts, hissued⟩ := hstarted _ hn
    cases hissued
    exact .inr ⟨hold, hhold, rfl, hlasts⟩

lemma StartedBefore.of_inTime {deadline : ℕ} (h : StartedBefore deadline r)
    (hinTime : InTime setup before now r.trace r')
    (hdeadline : ∀ hold, r'.stage.hold? = some hold → hold.deadline = deadline) :
    StartedBefore deadline r' := by
  intro phase id time hmem hmeasured
  obtain hmem | ⟨hold, hhold, rfl, hlasts⟩ := hinTime.mem_requestsStarted hmem hmeasured
  · exact h phase id time hmem hmeasured
  · rwa [← hdeadline hold hhold]

lemma time_le_of_reachable {phase : Phase} {id time : ℕ}
    (h : Reachable setup calls now cancelled r) (hmem : (phase, id, time) ∈ requestsStarted r) :
    time ≤ now := by
  induction h with
  | start hstart =>
    obtain hmem | ⟨rfl, -⟩ := mem_requestsStarted_of_advances (advances_start hstart) hmem
    · cases hmem
    · exact le_rfl
  | step _ hnow _ hstep ih =>
    obtain hmem | ⟨rfl, -⟩ := mem_requestsStarted_of_advances (advances_step hstep) hmem
    · exact (ih hmem).trans hnow
    · exact le_rfl

/-- While the full load is held, all requests so far were started before its deadline. -/
lemma startedBefore_of_sustained (h : Reachable setup calls now cancelled r)
    (hstage : r.stage = .sustained hold) : StartedBefore hold.deadline r := by
  have hbegun {now : ℕ} {cancelled : Bool} {r : Run} (h : Reachable setup calls now cancelled r)
      (hlasts : now < hold.deadline) : StartedBefore hold.deadline r := by
    intro phase id time hmem _
    exact (time_le_of_reachable h hmem).trans_lt hlasts
  induction h with
  | start hstart =>
    have hheld := (inTime_start hstart).held
    rw [hstage] at hheld
    cases hheld with
    | unheld hnone => cases hnone
    | kept hkept => cases hkept
    | fullLoad _ hlasts => exact hbegun (.start hstart) hlasts
  | @step now cancelled r r' s hreach hnow hcancelled hstep ih =>
    have hinTime := inTime_step (passes_of_reachable hreach) hstep
    have hheld := hinTime.held
    rw [hstage] at hheld
    cases hheld with
    | unheld hnone => cases hnone
    | kept hkept =>
      refine (ih (Option.some.inj hkept)).of_inTime hinTime ?_
      intro hold' hhold'
      rw [hstage] at hhold'
      cases hhold'
      rfl
    | fullLoad _ hlasts => exact hbegun (hreach.step hnow hcancelled hstep) hlasts

/-- The full load is held on, or taken off. -/
lemma stage_of_sustained (h : Proceeds setup now cancelled (.within (.sustained hold)) r r') :
    r'.stage = .sustained hold ∨ Unloading r'.stage := by
  cases h with
  | awaitHold => exact .inl rfl
  | endSustained _ _ h | cutSustained _ h => exact .inr (unwinds_proceeds h trivial).stage

lemma step_sustained {s : Signal} (hstage : r.stage = .sustained hold) (hr : r.step s = .ok r') :
    r'.stage = .sustained hold ∨ Unloading r'.stage := by
  cases answers_step hr with
  | cut _ _ hproceeds | wake _ _ _ _ hproceeds =>
    rw [hstage] at hproceeds
    exact stage_of_sustained hproceeds
  | idle hstage' | settle hstage' | drain hstage' | finished hstage' =>
    cases hstage.symm.trans hstage'

lemma reachable_of_onward (hreach : Reachable setup calls now cancelled r)
    (h : Onward now cancelled r now' cancelled' r') : Reachable setup calls now' cancelled' r' := by
  induction h with
  | refl => exact hreach
  | step _ hnow hcancelled hstep ih => exact ih.step hnow hcancelled hstep

/-- No measured request is started at or after the deadline of the full load. -/
lemma startedBefore_of_onward (hreach : Reachable setup calls now cancelled r)
    (hstage : r.stage = .sustained hold) (h : Onward now cancelled r now' cancelled' r') :
    StartedBefore hold.deadline r' := by
  suffices hkept : StartedBefore hold.deadline r' ∧
      (r'.stage = .sustained hold ∨ Unloading r'.stage) from hkept.1
  induction h with
  | refl => exact ⟨startedBefore_of_sustained hreach hstage, .inl hstage⟩
  | @step now₁ cancelled₁ r₁ r₂ s honward hnow hcancelled hstep ih =>
    obtain ⟨hbefore, hwhere⟩ := ih
    have hinTime := inTime_step (passes_of_reachable (reachable_of_onward hreach honward)) hstep
    have hnext : r₂.stage = .sustained hold ∨ Unloading r₂.stage := by
      obtain hsustained | hunloading := hwhere
      · exact step_sustained hsustained hstep
      · exact .inr (unwinds_step hunloading hstep).stage
    refine ⟨hbefore.of_inTime hinTime ?_, hnext⟩
    intro hold' hhold'
    obtain hsustained | hunloading := hnext
    · rw [hsustained] at hhold'
      cases hhold'
      rfl
    · rw [hold?_of_unloading hunloading] at hhold'
      cases hhold'

end FullLoad

/-! ### How long a run lasts -/

/-- The time that a run takes to rise, if it does. -/
def riseTime (setup : Setup) : ℕ :=
  match rampPlan setup with
  | .ok (_ :: _) => setup.spec.rampUp.nanos
  | _ => 0

/-- How long the load lasts in a run that is not cut short. -/
def loadTime (setup : Setup) : ℕ := riseTime setup + setup.spec.duration.nanos

/-- What the clock and the deadlines of a run tell, at each place, of the time that has passed since
the measured part began. -/
def Lasting (setup : Setup) (now : ℕ) (r : Run) : Place → Prop
  | .opened | .ready => True
  | .measuring steps => r.runner.clock ≤ now ∧ rampPlan setup = .ok steps
  | .rising start later => r.runner.clock ≤ start ∧
    (∃ held, rampPlan setup = .ok (held ++ later) ∧ held ++ later ≠ []) ∧
    (later = [] → start + setup.spec.rampUp.nanos ≤ now)
  | .within (.rampUp hold start later) => r.runner.clock ≤ start ∧
    ∃ held step, rampPlan setup = .ok (held ++ step :: later) ∧
      hold.deadline = start + step.finish.nanos
  | .risen => r.runner.clock + riseTime setup ≤ now
  | .within (.sustained hold) => r.runner.clock + loadTime setup ≤ hold.deadline
  | .unloaded cutShort => cutShort = false → r.runner.clock + loadTime setup ≤ now
  | .within (.rampDown _) => r.cutShort = false → r.runner.clock + loadTime setup ≤ now
  | .within (.burst b) =>
    b.phase = .cooldown → r.cutShort = false → loadTime setup ≤ r.elapsed.nanos
  | .drained | .closing => r.cutShort = false → loadTime setup ≤ r.elapsed.nanos
  | .within .finished => (r.cutShort = false → loadTime setup ≤ r.elapsed.nanos) ∧
    ∀ report, r.report = some report → report.elapsed = r.elapsed

section Lasting

variable {setup : Setup} {place : Place} {calls now now' : ℕ} {cancelled : Bool} {r r' : Run}

lemma Lasting.of_kept (h : Lasting setup now r place) (hnow : now ≤ now')
    (hclock : r'.runner.clock = r.runner.clock) (hcut : r'.cutShort = r.cutShort)
    (helapsed : r'.elapsed = r.elapsed) (hreport : r'.report = r.report) :
    Lasting setup now' r' place := by
  cases place with
  | opened | ready => trivial
  | measuring steps => exact ⟨hclock.trans_le (h.1.trans hnow), h.2⟩
  | risen =>
    simp only [Lasting, hclock] at h ⊢
    exact h.trans hnow
  | unloaded cutShort =>
    simp only [Lasting, hclock] at h ⊢
    exact fun huncut => (h huncut).trans hnow
  | rising start later =>
    simp only [Lasting, hclock] at h ⊢
    obtain ⟨hstart, hplan, hlast⟩ := h
    exact ⟨hstart, hplan, fun hnil => (hlast hnil).trans hnow⟩
  | drained | closing => simpa only [Lasting, hcut, helapsed] using h
  | within stage =>
    cases stage with
    | burst | finished => simpa only [Lasting, hcut, helapsed, hreport] using h
    | rampUp | sustained => simpa only [Lasting, hclock] using h
    | rampDown =>
      simp only [Lasting, hclock, hcut] at h ⊢
      exact fun huncut => (h huncut).trans hnow

lemma tiles_of_rampPlan {steps : List RampStep} (h : rampPlan setup = .ok steps) :
    Tiles setup.spec.rampUp steps := by
  unfold rampPlan at h
  by_cases hnone : (setup.spec.rampUp.isZero || setup.schedule.targetLevel ≤ 0.0 ||
      setup.settings.maxRampSteps = 0) = true
  · unfold Schedule.rampSteps at h
    rw [if_pos hnone] at h
    cases h
    exact ⟨nofun, .nil, nofun⟩
  · obtain ⟨steps', hplan, hsteps⟩ := exists_steps hnone
    obtain rfl : steps' = steps := Except.ok.inj (hplan.symm.trans h)
    exact tiles_of_steps hsteps

lemma riseTime_of_steps {steps : List RampStep} (h : rampPlan setup = .ok steps)
    (hne : steps ≠ []) : riseTime setup = setup.spec.rampUp.nanos := by
  unfold riseTime
  rw [h]
  cases steps with
  | nil => exact absurd rfl hne
  | cons => rfl

lemma between_eq {start finish : ℕ} {d : Duration} (h : Duration.between start finish = .ok d) :
    d.nanos = finish - start := by
  unfold Duration.between Duration.ofNanos? at h
  split at h
  · next hsome =>
    cases h
    split at hsome
    · cases hsome
      rfl
    · cases hsome
  · cases h

lemma stopSampling_elapsed : (r.stopSampling now).elapsed = r.elapsed := by
  unfold Run.stopSampling
  split <;> rfl

lemma drained_elapsed (elapsed : Duration) : (r.drained elapsed now).elapsed = elapsed := by
  unfold Run.drained
  rw [stopSampling_elapsed]

lemma completed_elapsed (report : Report) : (r.completed report).elapsed = r.elapsed := by
  unfold Run.completed
  dsimp only
  split <;> rfl

lemma passes_lasting (h : Passes setup calls place now cancelled r) :
    Lasting setup now r place := by
  induction h with
  | opened | skipWarmup | endWarmup => trivial
  | beginWarmup => rintro ⟨⟩
  | elapse _ hnow _ ih => exact ih.of_kept hnow rfl rfl rfl rfl
  | wait _ ih => exact ih.of_kept le_rfl rfl rfl rfl rfl
  | schedule _ _ _ _ ih => exact ih.of_kept le_rfl rfl rfl rfl rfl
  | issueBurst _ _ ih => exact ih
  | settleBurst _ _ ih => exact ih
  | beginCooldown _ _ ih => exact fun _ => ih
  | endCooldown _ hphase _ _ ih => exact ih hphase
  | skipCooldown _ _ ih => exact ih
  | beginMeasured _ hsteps _ => exact ⟨by simp, hsteps⟩
  | skipRise _ ih =>
    obtain ⟨hclock, hplan⟩ := ih
    have hrise : riseTime setup = 0 := by
      unfold riseTime
      rw [hplan]
    change _ + riseTime setup ≤ _
    omega
  | beginRise _ hne ih =>
    obtain ⟨hclock, hplan⟩ := ih
    exact ⟨hclock, ⟨[], hplan, hne⟩, fun hnil => absurd hnil hne⟩
  | beginStep _ hdeadline ih =>
    obtain ⟨hclock, ⟨held, hplan, -⟩, -⟩ := ih
    refine ⟨by simpa using hclock, held, _, hplan, ?_⟩
    simpa using past_eq hdeadline
  | beginSustained _ hdeadline ih =>
    change _ + riseTime setup ≤ _ at ih
    have hdeadline := past_eq hdeadline
    simp only [Lasting, Run.beginFullLoad, beginHold_fields, Run.phaseStarted, note_fields]
    unfold loadTime
    omega
  | beginRampDown _ _ ih =>
    intro hcut
    simp only [rampingDown_fields] at hcut ⊢
    exact ih hcut
  | refill _ _ _ _ _ hissue ih =>
    obtain ⟨-, rfl⟩ := issue_ok hissue
    exact ih.of_kept le_rfl rfl rfl rfl rfl
  | arrive _ _ _ _ harrive ih =>
    obtain ⟨-, rfl⟩ | ⟨-, -, rfl⟩ := arrive_ok harrive
    · exact ih.of_kept le_rfl rfl rfl rfl rfl
    · exact ih.of_kept le_rfl rfl rfl rfl rfl
  | reportProgress _ _ hreport ih =>
    obtain ⟨-, rfl⟩ | ⟨-, _, _, -, -, rfl⟩ := reportProgress_ok hreport
    · exact ih
    · exact ih.of_kept le_rfl rfl rfl rfl rfl
  | record _ _ hrecord ih =>
    obtain ⟨runner, notes, -, rfl, rfl | ⟨p, -, o, -, rfl⟩⟩ := record_ok hrecord
    · exact ih.of_kept le_rfl rfl rfl rfl rfl
    · exact ih.of_kept le_rfl rfl rfl rfl rfl
  | endStep _ hnow ih =>
    obtain ⟨hclock, held, step, hplan, hdeadline⟩ := ih
    rw [List.append_cons] at hplan
    refine ⟨hclock, ⟨_, hplan, by simp⟩, ?_⟩
    rintro rfl
    have hlast : step.finish = setup.spec.rampUp :=
      (tiles_of_rampPlan hplan).last step (by simp)
    rw [hlast] at hdeadline
    omega
  | endRise _ ih =>
    obtain ⟨hclock, ⟨held, hplan, hne⟩, hlast⟩ := ih
    have hrise := riseTime_of_steps hplan hne
    have hover := hlast rfl
    change _ + riseTime setup ≤ _
    simp
    omega
  | cutRise | cutSustained => rintro ⟨⟩
  | endSustained _ hnow ih =>
    intro _
    change _ + loadTime setup ≤ _ at ih
    simp
    omega
  | endRampDown _ _ helapsed ih =>
    intro hcut
    simp only [drained_fields] at hcut
    have hlasts := ih hcut
    rw [drained_elapsed, between_eq helapsed]
    omega
  | complete _ hcomplete ih =>
    obtain ⟨report, haccount, rfl⟩ := complete_ok hcomplete
    constructor
    · intro hcut
      rw [completed_elapsed]
      exact ih (by simpa using hcut)
    · intro report' hreport'
      simp only [completed_fields, Option.some.injEq] at hreport'
      subst hreport'
      obtain ⟨throughput, -, rfl⟩ := RunRecord.report_eq_ok.1 haccount
      rw [completed_elapsed]
      rfl

/-- Only a run that has been cancelled is cut short. -/
lemma passes_cutShort (h : Passes setup calls place now cancelled r)
    (hcut : r.cutShort = true ∨ place = .unloaded true) : cancelled = true := by
  induction h with
  | opened => simp [Run.opened] at hcut
  | elapse _ _ hcancelled ih => exact hcancelled (ih hcut)
  | wait _ ih | schedule _ _ _ _ ih => exact ih hcut
  | refill _ _ _ _ _ hissue ih =>
    obtain ⟨-, rfl⟩ := issue_ok hissue
    exact ih hcut
  | arrive _ _ _ _ harrive ih =>
    obtain ⟨-, rfl⟩ | ⟨-, -, rfl⟩ := arrive_ok harrive
    · exact ih hcut
    · exact ih hcut
  | reportProgress _ _ hreport ih =>
    obtain ⟨-, rfl⟩ | ⟨-, _, _, -, -, rfl⟩ := reportProgress_ok hreport
    · exact ih hcut
    · exact ih hcut
  | record _ _ hrecord ih =>
    obtain ⟨_, _, -, rfl, -⟩ := record_ok hrecord
    exact ih hcut
  | complete _ hcomplete ih =>
    obtain ⟨report, -, rfl⟩ := complete_ok hcomplete
    exact ih (by simpa using hcut)
  | cutRise | cutSustained => rfl
  | beginRampDown _ _ ih => exact ih (.inr (by simpa using hcut))
  | _ =>
    rename_i ih
    exact ih (.inl (by simpa using hcut))

/-- A run that is not cancelled is not cut short, and one that is not cut short lasts as long as its
load, or longer. -/
structure LastsLoad (setup : Setup) (cancelled : Bool) (r : Run) (report : Report) : Prop where
  uncut : cancelled = false → r.cutShort = false
  lasts : r.cutShort = false → loadTime setup ≤ report.elapsed.nanos

lemma passes_lastsLoad {report : Report} (h : Passes setup calls place now cancelled r)
    (hreport : r.report = some report) : LastsLoad setup cancelled r report := by
  obtain ⟨rfl, -, -⟩ := passes_report h hreport
  obtain ⟨hlasts, helapsed⟩ := passes_lasting h
  constructor
  · intro hcancelled
    by_contra hcut
    have hcancelled' := passes_cutShort h (.inl (by simpa using hcut))
    rw [hcancelled] at hcancelled'
    cases hcancelled'
  · intro huncut
    rw [helapsed report hreport]
    exact hlasts huncut

end Lasting

/-- A run starts each measured request before the deadline of the hold that asks for it. In every
answer to a signal the holds whose deadlines are over end first, and nothing is started for a step
of the rise that is over when it begins. Once the full load is held, no measured request is started
at or after its deadline, whatever else happens. A run that is not cut short lasts at least for the
time of its rise, if there is one, and of its full load, wherever it reads its clock; this holds of
every run that a generator executes. -/
theorem load_in_time (setup : Setup) (calls : ℕ) :
    (∀ now cancelled r, Run.start setup calls cancelled now = .ok r →
      InTime setup none now [] r) ∧
    (∀ now cancelled r, Reachable setup calls now cancelled r →
      Passes setup calls (.within r.stage) now cancelled r ∧
      (∀ s r', r.step s = .ok r' → InTime setup (some r.stage) s.now r.trace r') ∧
      ∀ hold, r.stage = .sustained hold → ∀ now' cancelled' r',
        Onward now cancelled r now' cancelled' r' → StartedBefore hold.deadline r') ∧
    (∀ place now cancelled r report, Passes setup calls place now cancelled r →
      r.report = some report → LastsLoad setup cancelled r report) ∧
    ∀ g spec r g', Generator.execute g spec = .ok (.ok r, g') →
      ∃ schedule report, spec.validate = .ok schedule ∧ r.report = some report ∧
        LastsLoad (g.setup spec schedule) (g.world.isCancelled g'.now) r report := by
  refine ⟨fun now cancelled r => inTime_start, ?_, ?_, ?_⟩
  · intro now cancelled r hreach
    have hpasses := passes_of_reachable hreach
    refine ⟨hpasses, fun s r' => inTime_step hpasses, ?_⟩
    intro hold hstage now' cancelled' r' honward
    exact startedBefore_of_onward hreach hstage honward
  · intro place now cancelled r report hpasses hreport
    exact passes_lastsLoad hpasses hreport
  · intro g spec r g' hexecute
    obtain ⟨schedule, hvalid, hreach, hfinished⟩ := reachable_of_execute hexecute
    obtain ⟨report, hreport⟩ := Option.isSome_iff_exists.1 hfinished
    exact ⟨schedule, report, hvalid, hreport, passes_lastsLoad (passes_of_reachable hreach) hreport⟩

/-- A run that rises for ten milliseconds and holds the full load for twenty. -/
def risingSpec : Spec :=
  { concurrency := some 2, duration := .ofMillis 20, rampUp := .ofMillis 10 }

def unhurriedGenerator : Generator := { hurriedGenerator with cancelAt := none }

theorem load_in_time_rising :
    ∃ r report, (executed? unhurriedGenerator risingSpec).map Prod.fst = some r ∧
      r.report = some report ∧ r.cutShort = false ∧ 30000000 ≤ report.elapsed.nanos := by
  have hfigures : (executed? unhurriedGenerator risingSpec).map (fun e => e.1.cutShort) =
      some false := by decide +kernel
  obtain ⟨⟨r, g'⟩, hexecuted, huncut⟩ := Option.map_eq_some_iff.1 hfigures
  obtain ⟨schedule, report, hvalid, hreport, hlasts⟩ :=
    (load_in_time (unhurriedGenerator.setup risingSpec (.concurrency 2)) 0).2.2.2 _ _ r g'
      (executed?_eq_some.1 hexecuted)
  have hvalid' : risingSpec.validate = .ok (.concurrency 2) := rfl
  obtain rfl : Schedule.concurrency 2 = schedule := Except.ok.inj (hvalid'.symm.trans hvalid)
  have htime : loadTime (unhurriedGenerator.setup risingSpec (.concurrency 2)) = 30000000 := by
    decide +kernel
  exact ⟨r, report, by rw [hexecuted]; rfl, hreport, huncut, htime ▸ hlasts.lasts huncut⟩

end LoadTest.Proofs
