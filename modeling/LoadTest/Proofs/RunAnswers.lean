import LoadTest.Proofs.RunActions

/-!
# How a run answers a signal

`Run.start` and `Run.step` take a run from one wait to the next, through any number of phases.
`Proceeds` is that way at one moment, as a chain of actions from the place of its course where the
run stands to the state in which it waits. `Answers` adds what a run does with a signal before it
goes on. `proceeds_start` and `answers_step` say that the run does nothing else, so that a property
of a whole answer follows by induction on `Proceeds`.
-/

namespace LoadTest.Proofs

/-- Where a run stands in its course. -/
inductive Place where
  /-- The run has been announced. -/
  | opened
  /-- The warmup is over, or there is none. -/
  | ready
  /-- The measured part has begun, with these steps to rise by. -/
  | measuring (steps : List RampStep)
  /-- The rise began at `start`; no step is held, and those in `later` are to come. -/
  | rising (start : Nat) (later : List RampStep)
  /-- The full load is next. -/
  | risen
  /-- No more measured requests are started. -/
  | unloaded (cutShort : Bool)
  /-- The measured part is over. -/
  | drained
  /-- Only the report is missing. -/
  | closing
  | within (stage : Stage)

/-- How a run goes on at one moment, from a place of its course until it waits or has finished. -/
inductive Proceeds (setup : Setup) (now : Nat) (cancelled : Bool) : Place → Run → Run → Prop where
  -- Bursts.
  | skipWarmup {r r' : Run} (hcount : setup.warmupCount = 0)
    (h : Proceeds setup now cancelled .ready r r') : Proceeds setup now cancelled .opened r r'
  | beginWarmup {r r' : Run} (hcount : setup.warmupCount ≠ 0)
    (h : Proceeds setup now cancelled (.within (.burst (setup.burst .warmup setup.warmupCount)))
      (r.phaseStarted .warmup) r') : Proceeds setup now cancelled .opened r r'
  | issueBurst {b : Burst} {r r' : Run} (hwants : b.wants cancelled)
    (h : Proceeds setup now cancelled (.within (.burst (b.issue r.calls now)))
      (r.issueBurst b now) r') : Proceeds setup now cancelled (.within (.burst b)) r r'
  | awaitBurst {b : Burst} {r : Run} (hwants : ¬b.wants cancelled) (hpending : b.pending ≠ []) :
    Proceeds setup now cancelled (.within (.burst b)) r { r with stage := .burst b }
  | endWarmup {b : Burst} {r r' : Run} (hphase : b.phase = .warmup) (hwants : ¬b.wants cancelled)
    (hpending : b.pending = [])
    (h : Proceeds setup now cancelled .ready (r.burstCompleted .warmup) r') :
    Proceeds setup now cancelled (.within (.burst b)) r r'
  | beginCooldown {r r' : Run} (hcount : r.cooldownCount ≠ 0)
    (h : Proceeds setup now cancelled (.within (.burst (setup.burst .cooldown r.cooldownCount)))
      (r.phaseStarted .cooldown) r') : Proceeds setup now cancelled .drained r r'
  | endCooldown {b : Burst} {r r' : Run} (hphase : b.phase ≠ .warmup)
    (hwants : ¬b.wants cancelled) (hpending : b.pending = [])
    (h : Proceeds setup now cancelled .closing (r.burstCompleted b.phase) r') :
    Proceeds setup now cancelled (.within (.burst b)) r r'
  | skipCooldown {r r' : Run} (hcount : r.cooldownCount = 0)
    (h : Proceeds setup now cancelled .closing r r') : Proceeds setup now cancelled .drained r r'
  -- The beginnings of the measured phases.
  | beginMeasured {steps : List RampStep} {r r' : Run}
    (hsteps : setup.schedule.rampSteps setup.spec.rampUp setup.settings.maxRampSteps = .ok steps)
    (h : Proceeds setup now cancelled (.measuring steps) (r.measured now) r') :
    Proceeds setup now cancelled .ready r r'
  | skipRise {r r' : Run} (h : Proceeds setup now cancelled .risen r r') :
    Proceeds setup now cancelled (.measuring []) r r'
  | beginRise {steps : List RampStep} {r r' : Run} (hsteps : steps ≠ [])
    (h : Proceeds setup now cancelled (.rising now steps) (r.phaseStarted .rampUp) r') :
    Proceeds setup now cancelled (.measuring steps) r r'
  | beginStep {start deadline : Nat} {step : RampStep} {later : List RampStep} {r r' : Run}
    (hdeadline : step.finish.past start = .ok deadline)
    (h : Proceeds setup now cancelled
      (.within (.rampUp (r.beginStep step deadline now).2 start later))
      (r.beginStep step deadline now).1 r') :
    Proceeds setup now cancelled (.rising start (step :: later)) r r'
  | beginSustained {deadline : Nat} {r r' : Run}
    (hdeadline : setup.spec.duration.past now = .ok deadline)
    (h : Proceeds setup now cancelled (.within (.sustained (r.beginFullLoad deadline now).2))
      (r.beginFullLoad deadline now).1 r') : Proceeds setup now cancelled .risen r r'
  | beginRampDown {cutShort : Bool} {deadline : Nat} {r r' : Run}
    (hdeadline : setup.spec.rampDown.past now = .ok deadline)
    (h : Proceeds setup now cancelled (.within (.rampDown deadline)) (r.rampingDown cutShort) r') :
    Proceeds setup now cancelled (.unloaded cutShort) r r'
  -- Waiting while a level is held or the load is taken off.
  | awaitHold {stage : Stage} {hold : Hold} {r r' : Run} (hcancelled : cancelled = false)
    (hhold : stage.hold? = some hold) (hnow : now < hold.deadline)
    (hdue : r.issueDue hold now = .ok r') :
    Proceeds setup now cancelled (.within stage) r { r' with stage }
  | awaitRampDown {deadline : Nat} {r : Run} (hpending : r.runner.inFlight ≠ []) :
    Proceeds setup now cancelled (.within (.rampDown deadline)) r
      { r with stage := .rampDown deadline }
  -- The ends of the measured phases.
  | endStep {hold : Hold} {start : Nat} {later : List RampStep} {r r' : Run}
    (hcancelled : cancelled = false) (hnow : hold.deadline ≤ now)
    (h : Proceeds setup now cancelled (.rising start later) (r.held .rampUp true) r') :
    Proceeds setup now cancelled (.within (.rampUp hold start later)) r r'
  | endRise {start : Nat} {r r' : Run}
    (h : Proceeds setup now cancelled .risen
      (r.phaseCompleted .rampUp r.runner.outcomes.length) r') :
    Proceeds setup now cancelled (.rising start []) r r'
  | cutRise {hold : Hold} {start : Nat} {later : List RampStep} {r r' : Run}
    (hcancelled : cancelled = true)
    (h : Proceeds setup now cancelled (.unloaded true) (r.loadEnded .rampUp false) r') :
    Proceeds setup now cancelled (.within (.rampUp hold start later)) r r'
  | endSustained {hold : Hold} {r r' : Run} (hcancelled : cancelled = false)
    (hnow : hold.deadline ≤ now)
    (h : Proceeds setup now cancelled (.unloaded false) (r.loadEnded .sustained true) r') :
    Proceeds setup now cancelled (.within (.sustained hold)) r r'
  | cutSustained {hold : Hold} {r r' : Run} (hcancelled : cancelled = true)
    (h : Proceeds setup now cancelled (.unloaded true) (r.loadEnded .sustained false) r') :
    Proceeds setup now cancelled (.within (.sustained hold)) r r'
  | endRampDown {deadline : Nat} {elapsed : Duration} {r r' : Run}
    (hdone : r.runner.inFlight = [] ∨ deadline ≤ now)
    (helapsed : Duration.between r.runner.clock now = .ok elapsed)
    (h : Proceeds setup now cancelled .drained (r.drained elapsed now) r') :
    Proceeds setup now cancelled (.within (.rampDown deadline)) r r'
  | complete {r r' : Run} (hcomplete : r.complete = .ok r') :
    Proceeds setup now cancelled .closing r r'

/-- What a run makes of a signal, before it goes on. -/
inductive Answers (s : Signal) (r : Run) : Run → Prop where
  | idle {b : Burst} (hstage : r.stage = .burst b) (hsettled : s.settled = none) : Answers s r r
  | settle {b : Burst} {settled : Settlement} {r' : Run} (hstage : r.stage = .burst b)
    (hsettled : s.settled = some settled)
    (h : Proceeds r.setup s.now s.cancelled (.within (.burst (b.settle settled.id)))
      (r.note settled.ending.notes) r') : Answers s r r'
  | cut {hold : Hold} {r' : Run} (hhold : r.stage.hold? = some hold)
    (hcancelled : s.cancelled = true)
    (h : Proceeds r.setup s.now s.cancelled (.within r.stage) r r') : Answers s r r'
  | wake {hold : Hold} {r₁ r₂ r' : Run} (hhold : r.stage.hold? = some hold)
    (hcancelled : s.cancelled = false) (hrecord : r.record s.now s.settled = .ok r₁)
    (hreport : r₁.reportProgress hold.phase s.now = .ok r₂)
    (h : Proceeds r.setup s.now s.cancelled (.within r.stage) r₂ r') : Answers s r r'
  | drain {deadline : Nat} {r₁ r' : Run} (hstage : r.stage = .rampDown deadline)
    (hrecord : r.record s.now s.settled = .ok r₁)
    (h : Proceeds r.setup s.now s.cancelled (.within r.stage) r₁ r') : Answers s r r'
  | finished (hstage : r.stage = .finished) : Answers s r r

/-! ### How signals are answered -/

section Answering

variable {setup : Setup} {calls now : Nat} {cancelled : Bool} {r r' : Run}

lemma stage_eta {stage : Stage} (h : r.stage = stage) : { r with stage } = r := by
  subst h
  rfl

/-- A burst is refilled. Then it is waited for, or it is over and the run goes on with `next`. -/
lemma proceeds_burst {b : Burst} (next : Run → Burst → Except Fault Run)
    (hnext : ∀ r₁ b₁, r₁.setup = setup → b₁.phase = b.phase → ¬b₁.wants cancelled →
      b₁.pending = [] → next r₁ b₁ = .ok r' →
      Proceeds setup now cancelled (.within (.burst b₁)) r₁ r')
    (hsetup : r.setup = setup)
    (hr : (let (r₁, b₁) := r.refillBurst b cancelled now
      if b₁.pending.isEmpty then next r₁ b₁ else .ok { r₁ with stage := .burst b₁ }) = .ok r') :
    Proceeds setup now cancelled (.within (.burst b)) r r' := by
  fun_induction Run.refillBurst r b cancelled now with
  | case1 r b hwants ih => exact .issueBurst hwants (ih hnext hsetup hr)
  | case2 r b hwants =>
    dsimp only at hr
    by_cases hempty : b.pending.isEmpty = true
    · rw [if_pos hempty] at hr
      exact hnext r b hsetup rfl hwants (List.isEmpty_iff.1 hempty) hr
    · rw [if_neg hempty] at hr
      cases hr
      exact .awaitBurst hwants (by simpa using hempty)

lemma proceeds_cooldown (hsetup : r.setup = setup) (hr : r.cooldown cancelled now = .ok r') :
    Proceeds setup now cancelled .drained r r' := by
  unfold Run.cooldown at hr
  by_cases hcount : r.cooldownCount = 0
  · rw [if_pos hcount] at hr
    exact .skipCooldown hcount (.complete hr)
  · rw [if_neg hcount] at hr
    unfold Run.beginBurst at hr
    rw [hsetup] at hr
    refine .beginCooldown hcount (proceeds_burst
      (fun r₁ _ => (r₁.burstCompleted .cooldown).complete) ?_ (by simpa using hsetup) hr)
    intro r₁ b₁ _ hphase hwants hpending hr
    have hphase : b₁.phase = .cooldown := hphase
    refine .endCooldown (by simp [hphase]) hwants hpending (.complete ?_)
    rwa [hphase]

lemma proceeds_endRampDown {deadline : Nat} (hsetup : r.setup = setup)
    (hdone : r.runner.inFlight = [] ∨ deadline ≤ now)
    (hr : r.endRampDown cancelled now = .ok r') :
    Proceeds setup now cancelled (.within (.rampDown deadline)) r r' := by
  obtain ⟨elapsed, helapsed, hr⟩ := bind_eq_ok.1 hr
  exact .endRampDown hdone helapsed (proceeds_cooldown (by simpa using hsetup) hr)

lemma proceeds_beginRampDown {cutShort : Bool} (hsetup : r.setup = setup)
    (hr : r.beginRampDown cutShort cancelled now = .ok r') :
    Proceeds setup now cancelled (.unloaded cutShort) r r' := by
  obtain ⟨deadline, hdeadline, hr⟩ := bind_eq_ok.1 hr
  rw [(rampingDown_fields r cutShort).1, hsetup] at hdeadline
  refine .beginRampDown hdeadline ?_
  split at hr
  · next hempty =>
    exact proceeds_endRampDown (by simpa using hsetup) (.inl (List.isEmpty_iff.1 hempty)) hr
  · next hpending =>
    cases hr
    exact .awaitRampDown (by simpa using hpending)

lemma proceeds_endLoad {phase : Phase} {lasted : Bool} (hsetup : r.setup = setup)
    (hr : r.endLoad phase lasted cancelled now = .ok r') :
    Proceeds setup now cancelled (.unloaded (!lasted)) (r.loadEnded phase lasted) r' :=
  proceeds_beginRampDown (by simpa using hsetup) hr

/-- A level that begins to be held is cut if the run is cancelled, and passed over if its deadline is
over. Otherwise the run starts what is due and waits. -/
lemma proceeds_hold {stage : Stage} {hold : Hold} {deadline : Nat} {cut next : Except Fault Run}
    (hhold : stage.hold? = some hold) (hdeadline : hold.deadline = deadline)
    (hcut : cancelled = true → cut = .ok r' → Proceeds setup now cancelled (.within stage) r r')
    (hnext : cancelled = false → hold.deadline ≤ now → next = .ok r' →
      Proceeds setup now cancelled (.within stage) r r')
    (hr : (if cancelled then cut else if deadline ≤ now then next
      else do return { ← r.issueDue hold now with stage }) = .ok r') :
    Proceeds setup now cancelled (.within stage) r r' := by
  by_cases hcancelled : cancelled = true
  · rw [if_pos hcancelled] at hr
    exact hcut hcancelled hr
  · rw [if_neg hcancelled] at hr
    have hcancelled : cancelled = false := by simpa using hcancelled
    by_cases hover : deadline ≤ now
    · rw [if_pos hover] at hr
      exact hnext hcancelled (by omega) hr
    · rw [if_neg hover] at hr
      obtain ⟨r₁, hdue, hr⟩ := bind_eq_ok.1 hr
      cases hr
      exact .awaitHold hcancelled hhold (by omega) hdue

lemma proceeds_beginSustained (hsetup : r.setup = setup)
    (hr : r.beginSustained cancelled now = .ok r') : Proceeds setup now cancelled .risen r r' := by
  obtain ⟨deadline, hdeadline, hr⟩ := bind_eq_ok.1 hr
  rw [hsetup] at hdeadline
  have hbegun : (r.beginFullLoad deadline now).1.setup = setup := by simpa using hsetup
  refine .beginSustained hdeadline (proceeds_hold rfl (by simp) ?_ ?_ hr)
  · intro hcancelled hr
    exact .cutSustained hcancelled (proceeds_endLoad hbegun hr)
  · intro hcancelled hover hr
    exact .endSustained hcancelled hover (proceeds_endLoad hbegun hr)

lemma proceeds_rise {start : Nat} {later : List RampStep} (hsetup : r.setup = setup)
    (hr : r.rise start cancelled now later = .ok r') :
    Proceeds setup now cancelled (.rising start later) r r' := by
  induction later generalizing r with
  | nil => exact .endRise (proceeds_beginSustained (by simpa using hsetup) hr)
  | cons step later ih =>
    obtain ⟨deadline, hdeadline, hr⟩ := bind_eq_ok.1 hr
    have hbegun : (r.beginStep step deadline now).1.setup = setup := by simpa using hsetup
    refine .beginStep hdeadline (proceeds_hold rfl (by simp) ?_ ?_ hr)
    · intro hcancelled hr
      exact .cutRise hcancelled (proceeds_endLoad hbegun hr)
    · intro hcancelled hover hr
      exact .endStep hcancelled hover (ih (by simpa using hbegun) hr)

lemma proceeds_beginMeasured (hsetup : r.setup = setup)
    (hr : r.beginMeasured cancelled now = .ok r') : Proceeds setup now cancelled .ready r r' := by
  obtain ⟨-, -, hr⟩ := bind_eq_ok.1 hr
  obtain ⟨steps, hsteps, hr⟩ := bind_eq_ok.1 hr
  have hmeasured : (r.measured now).setup = setup := by simpa using hsetup
  rw [hmeasured] at hsteps
  refine .beginMeasured hsteps ?_
  by_cases hempty : steps.isEmpty = true
  · rw [if_pos hempty] at hr
    rw [List.isEmpty_iff.1 hempty]
    exact .skipRise (proceeds_beginSustained hmeasured hr)
  · rw [if_neg hempty] at hr
    exact .beginRise (by simpa using hempty) (proceeds_rise (by simpa using hsetup) hr)

lemma proceeds_endBurst {b : Burst} (hsetup : r.setup = setup) (hwants : ¬b.wants cancelled)
    (hpending : b.pending = []) (hr : r.endBurst b.phase cancelled now = .ok r') :
    Proceeds setup now cancelled (.within (.burst b)) r r' := by
  unfold Run.endBurst at hr
  by_cases hphase : b.phase = .warmup
  · rw [if_pos hphase, hphase] at hr
    exact .endWarmup hphase hwants hpending (proceeds_beginMeasured (by simpa using hsetup) hr)
  · rw [if_neg hphase] at hr
    exact .endCooldown hphase hwants hpending (.complete hr)

lemma proceeds_start (hr : Run.start setup calls cancelled now = .ok r) :
    Proceeds setup now cancelled .opened (Run.opened setup calls now) r := by
  unfold Run.start at hr
  by_cases hcount : setup.warmupCount = 0
  · rw [if_pos hcount] at hr
    exact .skipWarmup hcount (proceeds_beginMeasured rfl hr)
  · rw [if_neg hcount] at hr
    refine .beginWarmup hcount
      (proceeds_burst (fun r₁ _ => r₁.endBurst .warmup cancelled now) ?_ rfl hr)
    intro r₁ b₁ hsetup hphase hwants hpending hr
    refine proceeds_endBurst hsetup hwants hpending ?_
    rwa [show b₁.phase = .warmup from hphase]

/-- A signal that finds a run holding a level ends the load if it cancels the run. Otherwise the run
records what settled and reports progress; before the deadline it starts what is due, and after it
the run goes on with `next`. -/
lemma answers_hold {s : Signal} {hold : Hold} {cut : Except Fault Run}
    {next : Run → Except Fault Run} (hhold : r.stage.hold? = some hold)
    (hcut : cut = .ok r' → Proceeds r.setup s.now true (.within r.stage) r r')
    (hnext : ∀ r₁, r₁.setup = r.setup → hold.deadline ≤ s.now → next r₁ = .ok r' →
      Proceeds r.setup s.now false (.within r.stage) r₁ r')
    (hr : (if s.cancelled then cut else do
      let r₁ ← (← r.record s.now s.settled).reportProgress hold.phase s.now
      if hold.deadline ≤ s.now then next r₁ else r₁.issueDue hold s.now) = .ok r') :
    Answers s r r' := by
  cases hcancelled : s.cancelled with
  | true =>
    rw [if_pos hcancelled] at hr
    refine .cut hhold hcancelled ?_
    rw [hcancelled]
    exact hcut hr
  | false =>
    rw [hcancelled, if_neg Bool.false_ne_true] at hr
    obtain ⟨r₁, hrecord, hr⟩ := bind_eq_ok.1 hr
    obtain ⟨r₂, hreport, hr⟩ := bind_eq_ok.1 hr
    obtain ⟨hsetup₁, hstage₁⟩ := record_kept hrecord
    obtain ⟨hsetup₂, hstage₂⟩ := reportProgress_kept hreport
    refine .wake hhold hcancelled hrecord hreport ?_
    rw [hcancelled]
    by_cases hover : hold.deadline ≤ s.now
    · rw [if_pos hover] at hr
      exact hnext r₂ (hsetup₂.trans hsetup₁) hover hr
    · rw [if_neg hover] at hr
      have hstage : r'.stage = r.stage := by
        rw [(starts_issueDue hr).stage, hstage₂, hstage₁]
      rw [← stage_eta hstage]
      exact .awaitHold rfl hhold (by omega) hr

/-- Every answer to a signal is one of these. -/
lemma answers_step {s : Signal} (hr : r.step s = .ok r') : Answers s r r' := by
  unfold Run.step at hr
  cases hstage : r.stage with
  | burst b =>
    simp only [hstage] at hr
    cases hsettled : s.settled with
    | none =>
      simp only [hsettled] at hr
      cases hr
      exact .idle hstage hsettled
    | some settled =>
      simp only [hsettled] at hr
      refine .settle hstage hsettled (proceeds_burst
        (fun r₁ b₁ => r₁.endBurst b₁.phase s.cancelled s.now) ?_ rfl hr)
      intro r₁ b₁ hsetup _ hwants hpending hr
      exact proceeds_endBurst hsetup hwants hpending hr
  | rampUp hold start later =>
    simp only [hstage] at hr
    refine answers_hold (by rw [hstage]; rfl) (fun hr => ?_) (fun r₁ hsetup hover hr => ?_) hr
    · rw [hstage]
      exact .cutRise rfl (proceeds_endLoad rfl hr)
    · rw [hstage]
      exact .endStep rfl hover (proceeds_rise (by simpa using hsetup) hr)
  | sustained hold =>
    simp only [hstage] at hr
    refine answers_hold (by rw [hstage]; rfl) (fun hr => ?_) (fun r₁ hsetup hover hr => ?_) hr
    · rw [hstage]
      exact .cutSustained rfl (proceeds_endLoad rfl hr)
    · rw [hstage]
      exact .endSustained rfl hover (proceeds_endLoad hsetup hr)
  | rampDown deadline =>
    simp only [hstage] at hr
    obtain ⟨r₁, hrecord, hr⟩ := bind_eq_ok.1 hr
    obtain ⟨hsetup, hstage₁⟩ := record_kept hrecord
    refine .drain hstage hrecord ?_
    rw [hstage] at hstage₁ ⊢
    split at hr
    · next hdone =>
      refine proceeds_endRampDown hsetup ?_ hr
      simp only [Bool.or_eq_true, Bool.and_eq_true, decide_eq_true_eq, List.isEmpty_iff] at hdone
      exact hdone.imp_right And.right
    · next hpending =>
      cases hr
      simp only [Bool.or_eq_true, List.isEmpty_iff, not_or] at hpending
      have hwaits : Proceeds r.setup s.now s.cancelled (.within (.rampDown deadline)) r'
          { r' with stage := .rampDown deadline } := .awaitRampDown hpending.1
      rwa [stage_eta hstage₁] at hwaits
  | finished =>
    simp only [hstage] at hr
    cases hr
    exact .finished hstage

end Answering

end LoadTest.Proofs
