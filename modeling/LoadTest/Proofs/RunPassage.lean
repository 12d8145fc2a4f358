import LoadTest.Proofs.RunAnswers

/-!
# The states that a run passes through

`Passes` takes the way of a run from its beginning one action at a time, with the clock and the
cancellation of the moment at which each state is passed: a request is started, recorded or skipped,
a phase begins or ends. In between the clock may advance and the run may be cancelled anywhere. What
holds of every state passed therefore holds for every target, every order in which requests settle
and every moment of cancellation.
-/

namespace LoadTest.Proofs

/-- The parts of a run. -/
inductive Part where
  | warmup
  | measured
  | cooldown
  deriving DecidableEq

namespace Place

/-- The part of a run that a place belongs to. -/
def part : Place → Part
  | .opened | .ready => .warmup
  | .within (.burst b) => if b.phase = .warmup then .warmup else .cooldown
  | .drained | .closing | .within .finished => .cooldown
  | _ => .measured

/-- The bursts and holds of a run belong to the phase in which they stand. -/
def WellFormed : Place → Prop
  | .within (.burst b) => b.phase = .warmup ∨ b.phase = .cooldown
  | .within (.rampUp hold _ _) => hold.phase = .rampUp
  | .within (.sustained hold) => hold.phase = .sustained
  | _ => True

end Place

/-- The states that a run passes through, after `calls` earlier calls of the target. -/
inductive Passes (setup : Setup) (calls : Nat) : Place → Nat → Bool → Run → Prop where
  | opened (now : Nat) (cancelled : Bool) :
    Passes setup calls .opened now cancelled (Run.opened setup calls now)
  | elapse {place : Place} {now now' : Nat} {cancelled cancelled' : Bool} {r : Run}
    (h : Passes setup calls place now cancelled r) (hnow : now ≤ now')
    (hcancelled : cancelled = true → cancelled' = true) :
    Passes setup calls place now' cancelled' r
  | wait {stage : Stage} {now : Nat} {cancelled : Bool} {r : Run}
    (h : Passes setup calls (.within stage) now cancelled r) :
    Passes setup calls (.within stage) now cancelled { r with stage }
  -- Bursts.
  | skipWarmup {now : Nat} {cancelled : Bool} {r : Run}
    (h : Passes setup calls .opened now cancelled r) (hcount : setup.warmupCount = 0) :
    Passes setup calls .ready now cancelled r
  | beginWarmup {now : Nat} {cancelled : Bool} {r : Run}
    (h : Passes setup calls .opened now cancelled r) (hcount : setup.warmupCount ≠ 0) :
    Passes setup calls (.within (.burst (setup.burst .warmup setup.warmupCount))) now cancelled
      (r.phaseStarted .warmup)
  | issueBurst {b : Burst} {now : Nat} {cancelled : Bool} {r : Run}
    (h : Passes setup calls (.within (.burst b)) now cancelled r) (hwants : b.wants cancelled) :
    Passes setup calls (.within (.burst (b.issue r.calls now))) now cancelled (r.issueBurst b now)
  | settleBurst {b : Burst} {now : Nat} {cancelled : Bool} {r : Run} (s : Settlement)
    (h : Passes setup calls (.within (.burst b)) now cancelled r) :
    Passes setup calls (.within (.burst (b.settle s.id))) now cancelled (r.note s.ending.notes)
  | endWarmup {b : Burst} {now : Nat} {cancelled : Bool} {r : Run}
    (h : Passes setup calls (.within (.burst b)) now cancelled r) (hphase : b.phase = .warmup)
    (hwants : ¬b.wants cancelled) (hpending : b.pending = []) :
    Passes setup calls .ready now cancelled (r.burstCompleted .warmup)
  | beginCooldown {now : Nat} {cancelled : Bool} {r : Run}
    (h : Passes setup calls .drained now cancelled r) (hcount : r.cooldownCount ≠ 0) :
    Passes setup calls (.within (.burst (setup.burst .cooldown r.cooldownCount))) now cancelled
      (r.phaseStarted .cooldown)
  | endCooldown {b : Burst} {now : Nat} {cancelled : Bool} {r : Run}
    (h : Passes setup calls (.within (.burst b)) now cancelled r) (hphase : b.phase = .cooldown)
    (hwants : ¬b.wants cancelled) (hpending : b.pending = []) :
    Passes setup calls .closing now cancelled (r.burstCompleted .cooldown)
  | skipCooldown {now : Nat} {cancelled : Bool} {r : Run}
    (h : Passes setup calls .drained now cancelled r) (hcount : r.cooldownCount = 0) :
    Passes setup calls .closing now cancelled r
  -- The beginnings of the measured phases.
  | beginMeasured {steps : List RampStep} {now : Nat} {cancelled : Bool} {r : Run}
    (h : Passes setup calls .ready now cancelled r)
    (hsteps : setup.schedule.rampSteps setup.spec.rampUp setup.settings.maxRampSteps = .ok steps) :
    Passes setup calls (.measuring steps) now cancelled (r.measured now)
  | skipRise {now : Nat} {cancelled : Bool} {r : Run}
    (h : Passes setup calls (.measuring []) now cancelled r) :
    Passes setup calls .risen now cancelled r
  | beginRise {steps : List RampStep} {now : Nat} {cancelled : Bool} {r : Run}
    (h : Passes setup calls (.measuring steps) now cancelled r) (hsteps : steps ≠ []) :
    Passes setup calls (.rising now steps) now cancelled (r.phaseStarted .rampUp)
  | beginStep {start deadline : Nat} {step : RampStep} {later : List RampStep} {now : Nat}
    {cancelled : Bool} {r : Run}
    (h : Passes setup calls (.rising start (step :: later)) now cancelled r)
    (hdeadline : step.finish.past start = .ok deadline) :
    Passes setup calls (.within (.rampUp (r.beginStep step deadline now).2 start later)) now
      cancelled (r.beginStep step deadline now).1
  | beginSustained {deadline : Nat} {now : Nat} {cancelled : Bool} {r : Run}
    (h : Passes setup calls .risen now cancelled r)
    (hdeadline : setup.spec.duration.past now = .ok deadline) :
    Passes setup calls (.within (.sustained (r.beginFullLoad deadline now).2)) now cancelled
      (r.beginFullLoad deadline now).1
  | beginRampDown {cutShort : Bool} {deadline : Nat} {now : Nat} {cancelled : Bool} {r : Run}
    (h : Passes setup calls (.unloaded cutShort) now cancelled r)
    (hdeadline : setup.spec.rampDown.past now = .ok deadline) :
    Passes setup calls (.within (.rampDown deadline)) now cancelled (r.rampingDown cutShort)
  -- What happens while a level is held.
  | refill {stage : Stage} {hold : Hold} {level : Nat} {now : Nat} {r r' : Run}
    (h : Passes setup calls (.within stage) now false r) (hhold : stage.hold? = some hold)
    (hnow : now < hold.deadline) (hpace : hold.pace = .concurrency level)
    (hroom : r.runner.inFlight.length < level) (hissue : r.issue hold.phase now = .ok r') :
    Passes setup calls (.within stage) now false r'
  | arrive {stage : Stage} {hold : Hold} {interval : Duration} {now : Nat} {r r' : Run}
    (h : Passes setup calls (.within stage) now false r) (hhold : stage.hold? = some hold)
    (hnow : now < hold.deadline) (hpace : hold.pace = .rate interval)
    (harrive : r.arrive hold.phase now = .ok r') :
    Passes setup calls (.within stage) now false r'
  | schedule {stage : Stage} {hold : Hold} {interval : Duration} {now : Nat} {cancelled : Bool}
    {r : Run} (next : Nat)
    (h : Passes setup calls (.within stage) now cancelled r) (hhold : stage.hold? = some hold)
    (hpace : hold.pace = .rate interval) :
    Passes setup calls (.within stage) now cancelled
      { r with runner := { r.runner with nextArrival := some next } }
  | reportProgress {stage : Stage} {hold : Hold} {now : Nat} {cancelled : Bool} {r r' : Run}
    (h : Passes setup calls (.within stage) now cancelled r) (hhold : stage.hold? = some hold)
    (hreport : r.reportProgress hold.phase now = .ok r') :
    Passes setup calls (.within stage) now cancelled r'
  | record {stage : Stage} {settled : Option Settlement} {now : Nat} {cancelled : Bool}
    {r r' : Run} (h : Passes setup calls (.within stage) now cancelled r)
    (hstage : (Place.within stage).part = .measured) (hrecord : r.record now settled = .ok r') :
    Passes setup calls (.within stage) now cancelled r'
  -- The ends of the measured phases.
  | endStep {hold : Hold} {start : Nat} {later : List RampStep} {now : Nat} {r : Run}
    (h : Passes setup calls (.within (.rampUp hold start later)) now false r)
    (hnow : hold.deadline ≤ now) :
    Passes setup calls (.rising start later) now false (r.held .rampUp true)
  | endRise {start now : Nat} {cancelled : Bool} {r : Run}
    (h : Passes setup calls (.rising start []) now cancelled r) :
    Passes setup calls .risen now cancelled (r.phaseCompleted .rampUp r.runner.outcomes.length)
  | cutRise {hold : Hold} {start : Nat} {later : List RampStep} {now : Nat} {r : Run}
    (h : Passes setup calls (.within (.rampUp hold start later)) now true r) :
    Passes setup calls (.unloaded true) now true (r.loadEnded .rampUp false)
  | endSustained {hold : Hold} {now : Nat} {r : Run}
    (h : Passes setup calls (.within (.sustained hold)) now false r)
    (hnow : hold.deadline ≤ now) :
    Passes setup calls (.unloaded false) now false (r.loadEnded .sustained true)
  | cutSustained {hold : Hold} {now : Nat} {r : Run}
    (h : Passes setup calls (.within (.sustained hold)) now true r) :
    Passes setup calls (.unloaded true) now true (r.loadEnded .sustained false)
  | endRampDown {deadline : Nat} {elapsed : Duration} {now : Nat} {cancelled : Bool} {r : Run}
    (h : Passes setup calls (.within (.rampDown deadline)) now cancelled r)
    (hdone : r.runner.inFlight = [] ∨ deadline ≤ now)
    (helapsed : Duration.between r.runner.clock now = .ok elapsed) :
    Passes setup calls .drained now cancelled (r.drained elapsed now)
  | complete {now : Nat} {cancelled : Bool} {r r' : Run}
    (h : Passes setup calls .closing now cancelled r) (hcomplete : r.complete = .ok r') :
    Passes setup calls (.within .finished) now cancelled r'

/-- The states in which signals leave a run that is `calls` calls old when it starts, with the
moment of the last signal. The clock does not run backwards, and what is cancelled stays so. -/
inductive Reachable (setup : Setup) (calls : Nat) : Nat → Bool → Run → Prop where
  | start {now : Nat} {cancelled : Bool} {r : Run}
    (hstart : Run.start setup calls cancelled now = .ok r) :
    Reachable setup calls now cancelled r
  | step {now : Nat} {cancelled : Bool} {r r' : Run} {s : Signal}
    (h : Reachable setup calls now cancelled r) (hnow : now ≤ s.now)
    (hcancelled : cancelled = true → s.cancelled = true) (hstep : r.step s = .ok r') :
    Reachable setup calls s.now s.cancelled r'

/-! ### Every reachable state is passed -/

section Soundness

variable {setup : Setup} {calls now : Nat} {cancelled : Bool} {r r' : Run}

lemma passes_setup {place : Place} (h : Passes setup calls place now cancelled r) :
    r.setup = setup := by
  induction h with
  | opened => rfl
  | refill _ _ _ _ _ hissue ih =>
    obtain ⟨_, rfl⟩ := issue_ok hissue
    exact ih
  | arrive _ _ _ _ harrive ih =>
    obtain ⟨_, rfl⟩ | ⟨_, _, rfl⟩ := arrive_ok harrive
    · exact ih
    · exact ih
  | reportProgress _ _ hreport ih =>
    obtain ⟨_, rfl⟩ | ⟨_, _, _, _, _, rfl⟩ := reportProgress_ok hreport
    · exact ih
    · exact ih
  | record _ _ hrecord ih =>
    obtain ⟨_, _, _, rfl, _⟩ := record_ok hrecord
    exact ih
  | complete _ hcomplete ih =>
    obtain ⟨_, _, rfl⟩ := complete_ok hcomplete
    simpa using ih
  | elapse _ _ _ ih | wait _ ih | schedule _ _ _ _ ih => exact ih
  | _ => simpa

lemma passes_wellFormed {place : Place} (h : Passes setup calls place now cancelled r) :
    place.WellFormed := by
  induction h with
  | beginWarmup => exact .inl rfl
  | beginCooldown => exact .inr rfl
  | beginStep => simp [Place.WellFormed]
  | beginSustained => simp [Place.WellFormed]
  | elapse _ _ _ ih | wait _ ih | issueBurst _ _ ih | settleBurst _ _ ih
  | refill _ _ _ _ _ _ ih | arrive _ _ _ _ _ ih | schedule _ _ _ _ ih
  | reportProgress _ _ _ ih | record _ _ _ ih => exact ih
  | _ => trivial

lemma not_finished_of_hold {stage : Stage} {hold : Hold} (h : stage.hold? = some hold) :
    Place.within stage ≠ .within .finished := by
  rintro ⟨⟩
  cases h

/-- A run has its report only when it has finished, and the report counts its requests. -/
lemma passes_report {place : Place} {report : Report}
    (h : Passes setup calls place now cancelled r) (hreport : r.report = some report) :
    place = .within .finished ∧ report.totalRequests = r.runner.outcomes.length ∧
      report.abandonedRequests = r.abandoned.length := by
  induction h with
  | opened => cases hreport
  | complete _ hcomplete =>
    obtain ⟨report', haccount, rfl⟩ := complete_ok hcomplete
    simp only [completed_fields, Option.some.injEq] at hreport
    subst hreport
    exact ⟨rfl, by simpa using account_report_ok haccount⟩
  | elapse _ _ _ ih | wait _ ih => exact ih hreport
  | refill _ hhold _ _ _ hissue ih =>
    obtain ⟨_, rfl⟩ := issue_ok hissue
    exact absurd (ih hreport).1 (not_finished_of_hold hhold)
  | arrive _ hhold _ _ harrive ih =>
    obtain ⟨_, rfl⟩ | ⟨_, _, rfl⟩ := arrive_ok harrive
    · exact absurd (ih hreport).1 (not_finished_of_hold hhold)
    · exact absurd (ih hreport).1 (not_finished_of_hold hhold)
  | schedule _ _ hhold _ ih => exact absurd (ih hreport).1 (not_finished_of_hold hhold)
  | reportProgress _ hhold hr ih =>
    obtain ⟨_, rfl⟩ | ⟨_, _, _, _, _, rfl⟩ := reportProgress_ok hr
    · exact absurd (ih hreport).1 (not_finished_of_hold hhold)
    · exact absurd (ih hreport).1 (not_finished_of_hold hhold)
  | record _ hstage hrecord ih =>
    obtain ⟨_, _, _, rfl, _⟩ := record_ok hrecord
    rw [(ih hreport).1] at hstage
    cases hstage
  | _ =>
    rename_i ih
    cases (ih (by simpa using hreport)).1

lemma part_of_hold {stage : Stage} {hold : Hold} (h : stage.hold? = some hold) :
    (Place.within stage).part = .measured := by
  cases stage with
  | rampUp | sustained => rfl
  | _ => cases h

lemma isMeasured_of_hold {stage : Stage} {hold : Hold} (hplace : (Place.within stage).WellFormed)
    (h : stage.hold? = some hold) : hold.phase.isMeasured = true := by
  cases stage with
  | rampUp | sustained =>
    cases h
    rw [show hold.phase = _ from hplace]
    rfl
  | _ => cases h

lemma isMeasured_of_burst {b : Burst} (hplace : (Place.within (.burst b)).WellFormed) :
    b.phase.isMeasured = false := by
  obtain hphase | hphase : b.phase = .warmup ∨ b.phase = .cooldown := hplace
  · rw [hphase]
    rfl
  · rw [hphase]
    rfl

section Hold

variable {stage : Stage} {hold : Hold}

lemma passes_issueMany {level n : Nat} (h : Passes setup calls (.within stage) now false r)
    (hhold : stage.hold? = some hold) (hnow : now < hold.deadline)
    (hpace : hold.pace = .concurrency level) (hn : r.runner.inFlight.length + n ≤ level)
    (hr : r.issueMany hold.phase now n = .ok r') :
    Passes setup calls (.within stage) now false r' := by
  induction n generalizing r with
  | zero =>
    cases hr
    exact h
  | succ n ih =>
    obtain ⟨r₁, hissue, hr⟩ := bind_eq_ok.1 hr
    have hpasses := h.refill hhold hnow hpace (by omega) hissue
    obtain ⟨_, rfl⟩ := issue_ok hissue
    have hroom : (issuedRunner r.runner r.calls now).inFlight.length + n ≤ level := by
      simp only [issuedRunner, List.length_append, List.length_singleton]
      omega
    exact ih hpasses hroom hr

lemma passes_catchUp {interval : Duration} {next next' : Nat}
    (h : Passes setup calls (.within stage) now false r) (hhold : stage.hold? = some hold)
    (hnow : now < hold.deadline) (hpace : hold.pace = .rate interval)
    (hr : r.catchUp hold.phase interval.nanos hold.deadline now next = .ok (r', next')) :
    Passes setup calls (.within stage) now false r' := by
  fun_induction Run.catchUp r hold.phase interval.nanos hold.deadline now next with
  | case1 => cases hr
  | case2 r next _ _ r₁ harrive ih => exact ih (h.arrive hhold hnow hpace harrive) hr
  | case3 => cases hr
  | case4 =>
    cases hr
    exact h

lemma passes_issueDue (h : Passes setup calls (.within stage) now false r)
    (hhold : stage.hold? = some hold) (hnow : now < hold.deadline)
    (hr : r.issueDue hold now = .ok r') : Passes setup calls (.within stage) now false r' := by
  cases hpace : hold.pace with
  | concurrency level =>
    simp only [Run.issueDue, hpace] at hr
    by_cases hfull : level ≤ r.runner.inFlight.length
    · rw [Nat.sub_eq_zero_of_le hfull] at hr
      cases hr
      exact h
    · exact passes_issueMany h hhold hnow hpace (by omega) hr
  | rate interval =>
    simp only [Run.issueDue, hpace] at hr
    obtain ⟨⟨r₁, next⟩, hcatch, hr⟩ := bind_eq_ok.1 hr
    cases hr
    exact (passes_catchUp h hhold hnow hpace hcatch).schedule next hhold hpace

end Hold

/-- A run that has passed to a place passes on until it waits. -/
lemma passes_proceeds {place : Place} (hproceeds : Proceeds setup now cancelled place r r')
    (h : Passes setup calls place now cancelled r) :
    Passes setup calls (.within r'.stage) now cancelled r' := by
  induction hproceeds with
  | skipWarmup hcount _ ih => exact ih (h.skipWarmup hcount)
  | beginWarmup hcount _ ih => exact ih (h.beginWarmup hcount)
  | issueBurst hwants _ ih => exact ih (h.issueBurst hwants)
  | awaitBurst | awaitRampDown => exact h.wait
  | endWarmup hphase hwants hpending _ ih => exact ih (h.endWarmup hphase hwants hpending)
  | beginCooldown hcount _ ih => exact ih (h.beginCooldown hcount)
  | endCooldown hphase hwants hpending _ ih =>
    have hcooldown := (passes_wellFormed h).resolve_left hphase
    rw [hcooldown] at ih
    exact ih (h.endCooldown hcooldown hwants hpending)
  | skipCooldown hcount _ ih => exact ih (h.skipCooldown hcount)
  | beginMeasured hsteps _ ih => exact ih (h.beginMeasured hsteps)
  | skipRise _ ih => exact ih h.skipRise
  | beginRise hsteps _ ih => exact ih (h.beginRise hsteps)
  | beginStep hdeadline _ ih => exact ih (h.beginStep hdeadline)
  | beginSustained hdeadline _ ih => exact ih (h.beginSustained hdeadline)
  | beginRampDown hdeadline _ ih => exact ih (h.beginRampDown hdeadline)
  | awaitHold hcancelled hhold hnow hdue =>
    subst hcancelled
    exact (passes_issueDue h hhold hnow hdue).wait
  | endStep hcancelled hnow _ ih =>
    subst hcancelled
    exact ih (h.endStep hnow)
  | endRise _ ih => exact ih h.endRise
  | cutRise hcancelled _ ih =>
    subst hcancelled
    exact ih h.cutRise
  | endSustained hcancelled hnow _ ih =>
    subst hcancelled
    exact ih (h.endSustained hnow)
  | cutSustained hcancelled _ ih =>
    subst hcancelled
    exact ih h.cutSustained
  | endRampDown hdone helapsed _ ih => exact ih (h.endRampDown hdone helapsed)
  | complete hcomplete =>
    have hpasses := h.complete hcomplete
    obtain ⟨report, _, rfl⟩ := complete_ok hcomplete
    simpa using hpasses

/-- A run that has been started waits at a state that it has passed to. -/
lemma passes_start (hr : Run.start setup calls cancelled now = .ok r) :
    Passes setup calls (.within r.stage) now cancelled r :=
  passes_proceeds (proceeds_start hr) (.opened now cancelled)

/-- A run that answers a signal waits at a state that it has passed to. -/
lemma passes_step {s : Signal} (h : Passes setup calls (.within r.stage) s.now s.cancelled r)
    (hr : r.step s = .ok r') : Passes setup calls (.within r'.stage) s.now s.cancelled r' := by
  obtain rfl := passes_setup h
  cases answers_step hr with
  | idle | finished => exact h
  | settle hstage _ hproceeds =>
    rw [hstage] at h
    exact passes_proceeds hproceeds (h.settleBurst _)
  | cut _ _ hproceeds => exact passes_proceeds hproceeds h
  | wake hhold _ hrecord hreport hproceeds =>
    refine passes_proceeds hproceeds ?_
    exact (h.record (part_of_hold hhold) hrecord).reportProgress hhold hreport
  | drain hstage hrecord hproceeds =>
    refine passes_proceeds hproceeds (h.record ?_ hrecord)
    rw [hstage]
    rfl

/-- Every reachable state is passed, at the place where its stage stands. -/
theorem passes_of_reachable (h : Reachable setup calls now cancelled r) :
    Passes setup calls (.within r.stage) now cancelled r := by
  induction h with
  | start hstart => exact passes_start hstart
  | step _ hnow hcancelled hstep ih => exact passes_step (ih.elapse hnow hcancelled) hstep

end Soundness

/-! ### Simulated runs -/

section Simulation

variable {w : World} {now : Nat} {r r' : Run}

lemma isCancelled_mono {later : Nat} (h : now ≤ later) (hcancelled : w.isCancelled now = true) :
    w.isCancelled later = true := by
  unfold World.isCancelled at *
  cases hcancel : w.cancelAt with
  | none =>
    rw [hcancel] at hcancelled
    cases hcancelled
  | some t =>
    rw [hcancel] at hcancelled
    rw [Option.any_some, decide_eq_true_eq] at *
    exact Nat.le_trans hcancelled h

lemma nextSignal?_moment {s : Signal} (h : w.nextSignal? r now = some s) :
    now ≤ s.now ∧ s.cancelled = w.isCancelled s.now := by
  obtain ⟨time, _, rfl⟩ := Option.map_eq_some_iff.1 h
  exact ⟨Nat.le_max_left .., rfl⟩

/-- What holds of a run that waits and is kept by every signal holds of the run in the end. -/
lemma play_invariant {P : Nat → Run → Prop} {fuel now' : Nat} (h : P now r)
    (hsignal : ∀ now r s r', P now r → now ≤ s.now → s.cancelled = w.isCancelled s.now →
      r.step s = .ok r' → P s.now r')
    (hr : w.play fuel r now = .ok (r', now')) : P now' r' ∧ r'.isFinished = true := by
  induction fuel generalizing r now with
  | zero => cases hr
  | succ fuel ih =>
    unfold World.play at hr
    by_cases hfinished : r.isFinished = true
    · rw [if_pos hfinished] at hr
      cases hr
      exact ⟨h, hfinished⟩
    · rw [if_neg hfinished] at hr
      cases hnext : w.nextSignal? r now with
      | none =>
        rw [hnext] at hr
        cases hr
      | some s =>
        rw [hnext] at hr
        obtain ⟨r₁, hstep, hr⟩ := bind_eq_ok.1 hr
        obtain ⟨hnow, hcancelled⟩ := nextSignal?_moment hnext
        exact ih (hsignal now r s r₁ h hnow hcancelled hstep) hr

/-- A specification that has been executed was valid, its run was played to the end, and the events
of the run went through the channel of the generator. -/
lemma execute_ok {g g' : Generator} {spec : Spec} (h : g.execute spec = .ok (.ok r, g')) :
    ∃ schedule first, spec.validate = .ok schedule ∧
      Run.start (g.setup spec schedule) g.calls (g.world.isCancelled g.now) g.now = .ok first ∧
      g.world.play mostSignals first g.now = .ok (r, g'.now) ∧
      g' = { g with now := g'.now, calls := r.calls, published := g.published ++ r.events } := by
  unfold Generator.execute at h
  cases hvalid : spec.validate with
  | error flaw =>
    rw [hvalid] at h
    cases h
  | ok schedule =>
    rw [hvalid] at h
    obtain ⟨⟨run, g₁⟩, hplay, h⟩ := bind_eq_ok.1 h
    cases h
    obtain ⟨first, hstart, hplay⟩ := bind_eq_ok.1 hplay
    obtain ⟨⟨last, now⟩, hlast, hplay⟩ := bind_eq_ok.1 hplay
    cases hplay
    exact ⟨schedule, first, rfl, hstart, hlast, rfl⟩

/-- A run that a generator has executed is a finished run of the schedule that its specification
names. -/
theorem reachable_of_execute {g g' : Generator} {spec : Spec}
    (h : g.execute spec = .ok (.ok r, g')) :
    ∃ schedule, spec.validate = .ok schedule ∧
      Reachable (g.setup spec schedule) g.calls g'.now (g.world.isCancelled g'.now) r ∧
      r.isFinished = true := by
  obtain ⟨schedule, first, hvalid, hstart, hplay, -⟩ := execute_ok h
  refine ⟨schedule, hvalid, play_invariant
    (P := fun now r => Reachable (g.setup spec schedule) g.calls now (g.world.isCancelled now) r)
    (.start hstart) (fun now r s r' hreach hnow hcancelled hstep => ?_) hplay⟩
  have hstepped := hreach.step hnow (fun hc => hcancelled ▸ isCancelled_mono hnow hc) hstep
  rwa [hcancelled] at hstepped

/-- The run and the generator after it, if a specification has been executed. -/
def executed? (g : Generator) (spec : Spec) : Option (Run × Generator) :=
  match g.execute spec with
  | .ok (.ok r, g') => some (r, g')
  | _ => none

lemma executed?_eq_some {g g' : Generator} {spec : Spec} :
    executed? g spec = some (r, g') ↔ g.execute spec = .ok (.ok r, g') := by
  unfold executed?
  constructor
  · intro h
    split at h
    · next hexecute =>
      cases h
      exact hexecute
    · cases h
  · intro h
    rw [h]

end Simulation

end LoadTest.Proofs
