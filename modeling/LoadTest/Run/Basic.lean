import LoadTest.Report
import LoadTest.Run.Burst
import LoadTest.Sampler
import LoadTest.Spec

/-!
# Runs

A run passes through its phases as it is woken by signals: a request settles, a timer is due, or
the run is cancelled. Between two signals it waits. Every request that is due is started before it
waits again, and none is started once it has been cancelled.
-/

namespace LoadTest

/-- What a run can read from its host: the wall clock and the use of resources. -/
structure Host where
  wall : Nat → Timestamp
  probe : Nat → ResourceSample

instance : Inhabited Host := ⟨⟨fun _ => .epoch, fun _ => default⟩⟩

/-- What a run is given. -/
structure Setup where
  runId : RunId := .nil
  spec : Spec
  /-- The load that the specification names. -/
  schedule : Schedule
  settings : GeneratorSettings := {}
  sampler : SamplerSettings := {}
  /-- The number of the first measured request. -/
  firstId : Nat := 0
  /-- How many runs share the process, and with it the figures of a sample. -/
  resourceShare : Nat := 1
  host : Host
  deriving Inhabited

namespace Setup

/-- The time between two reports of progress, at least a millisecond. -/
def progressInterval (s : Setup) : Nat := max s.settings.progressInterval.nanos 1000000

theorem progressInterval_pos (s : Setup) : 0 < s.progressInterval := by
  unfold progressInterval
  omega

/-- A burst of `count` requests, of which none has been started. -/
def burst (s : Setup) (phase : Phase) (count : Nat) : Burst :=
  { phase, count, width := max 1 s.settings.warmupConcurrency }

/-- The requests to start before the measured part. -/
def warmupCount (s : Setup) : Nat := s.spec.warmupRequests.getD 0

end Setup

/-- How requests are started while a load level is held. -/
inductive Pace where
  /-- Whenever fewer than `level` are in flight. -/
  | concurrency (level : Nat)
  /-- One at each interval. -/
  | rate (interval : Duration)

/-- A load level that is held until a deadline. -/
structure Hold where
  phase : Phase
  pace : Pace
  deadline : Nat

/-- Where a run stands between two signals. -/
inductive Stage where
  | burst (burst : Burst)
  /-- The rise began at `start`, and the steps in `later` are still to come. -/
  | rampUp (hold : Hold) (start : Nat) (later : List RampStep)
  | sustained (hold : Hold)
  | rampDown (deadline : Nat)
  | finished

namespace Stage

/-- The load level that is held, while one is. -/
def hold? : Stage → Option Hold
  | .rampUp hold _ _ | .sustained hold => some hold
  | _ => none

end Stage

/-- What wakes a run. A signal without a settled request comes from a timer. -/
structure Signal where
  now : Nat
  /-- Whether the run has been cancelled by now. -/
  cancelled : Bool
  settled : Option Settlement

structure Run where
  setup : Setup
  stage : Stage
  runner : Runner
  /-- How many times the target has been called, by earlier runs too. -/
  calls : Nat
  journal : List Note := []
  /-- Whether the measured part ended before its time. -/
  cutShort : Bool := false
  /-- Requests in flight when the measured part ended. -/
  abandoned : List Pending := []
  startedAt : Timestamp := .epoch
  finishedAt : Timestamp := .epoch
  elapsed : Duration := .zero
  resourceSamples : List ResourceSample := []
  report : Option Report := none

namespace Run

def note (r : Run) (notes : List Note) : Run := { r with journal := r.journal ++ notes }

def publish (r : Run) (event : Event) : Run := r.note [.event event]

def phaseStarted (r : Run) (phase : Phase) : Run :=
  r.note [.log .info "Phase started", .event (.phaseStarted r.setup.runId phase)]

def phaseCompleted (r : Run) (phase : Phase) (completed : Nat) : Run :=
  r.publish (.phaseCompleted r.setup.runId phase completed)

/-- Ends a hold, and tells whether it lasted until its deadline. -/
def held (r : Run) (phase : Phase) (lasted : Bool) : Run := r.note [.held phase lasted]

/-! ### The end of a run -/

/-- What a run whose phases are over hands over for its report. -/
def account (r : Run) : RunRecord where
  runId := r.setup.runId
  name := r.setup.spec.name
  schedule := r.setup.schedule
  startedAt := r.startedAt
  finishedAt := r.finishedAt
  elapsed := r.elapsed
  outcomes := r.runner.outcomes
  abandonedRequests := r.abandoned.length
  skippedRequests := r.runner.skipped
  resourceSamples := r.resourceSamples
  memoryLeak := r.setup.sampler.leak? r.resourceSamples
  throughputWindow := r.setup.settings.throughputWindow

/-- The run once it has been reported on. -/
def completed (r : Run) (report : Report) : Run :=
  let noted := if (r.setup.sampler.leak? r.resourceSamples).any LeakReport.suspected then
      r.note [.sampling .warn
        "Possible memory leak: resident memory kept growing during the run"]
    else r
  { noted.note
      [.log .info "Load test completed",
       .event (.runCompleted r.setup.runId report.totalRequests report.errorRate r.cutShort)] with
    report := some report
    stage := .finished }

/-- Reports on a run whose phases are over. -/
def complete (r : Run) : Except Fault Run := do
  return r.completed (← r.account.report)

/-! ### Bursts -/

/-- Starts the next request of a burst. -/
def issueBurst (r : Run) (b : Burst) (now : Nat) : Run :=
  { r with
    calls := r.calls + 1
    journal := r.journal ++ [.issued b.phase b.issued now] }

/-- Starts the requests of a burst that there is room for. -/
def refillBurst (r : Run) (b : Burst) (cancelled : Bool) (now : Nat) : Run × Burst :=
  if b.wants cancelled then
    (r.issueBurst b now).refillBurst (b.issue r.calls now) cancelled now
  else (r, b)
termination_by b.count - b.issued
decreasing_by simp only [Burst.issue, Burst.wants] at *; omega

def burstCompleted (r : Run) (phase : Phase) : Run :=
  (r.note [.log .debug "Unmeasured burst finished"]).phaseCompleted phase 0

/-- Begins a burst of `count` requests. -/
def beginBurst (r : Run) (phase : Phase) (count : Nat) (cancelled : Bool) (now : Nat) :
    Run × Burst :=
  (r.phaseStarted phase).refillBurst (r.setup.burst phase count) cancelled now

/-- The requests to start after the measured part of a run that was not cut short. -/
def cooldownCount (r : Run) : Nat :=
  if r.cutShort then 0 else r.setup.spec.cooldownRequests.getD 0

def cooldown (r : Run) (cancelled : Bool) (now : Nat) : Except Fault Run :=
  if r.cooldownCount = 0 then r.complete
  else
    let (r, burst) := r.beginBurst .cooldown r.cooldownCount cancelled now
    if burst.pending.isEmpty then (r.burstCompleted .cooldown).complete
    else .ok { r with stage := .burst burst }

/-! ### Ramping down -/

/-- Stops sampling, if samples were taken, and keeps this run's share of them. -/
def stopSampling (r : Run) (now : Nat) : Run :=
  if r.setup.settings.sampleResources then
    let samples := r.setup.sampler.series r.setup.host.probe r.runner.clock now
    let share := r.setup.resourceShare
    { r.note [.sampling .debug "Resource sampler stopped"] with
      resourceSamples := if 1 < share then samples.map (·.share share) else samples }
  else r

/-- The run once its measured part is over; what is still in flight is abandoned. -/
def drained (r : Run) (elapsed : Duration) (now : Nat) : Run :=
  let noted := if r.runner.inFlight.isEmpty then r
    else r.note [.log .error "Requests still in flight after ramp-down were abandoned"]
  { noted.phaseCompleted .rampDown r.runner.outcomes.length with
    runner := { r.runner with inFlight := [] }
    abandoned := r.runner.inFlight
    elapsed
    finishedAt := r.setup.host.wall now }.stopSampling now

/-- Ends the measured part. -/
def endRampDown (r : Run) (cancelled : Bool) (now : Nat) : Except Fault Run := do
  let elapsed ← Duration.between r.runner.clock now
  (r.drained elapsed now).cooldown cancelled now

/-- The run once no more requests are started. -/
def rampingDown (r : Run) (cutShort : Bool) : Run :=
  let noted := if cutShort then r.note [.log .info "Load test cancelled, ramping down"] else r
  { noted with cutShort }.phaseStarted .rampDown

/-- Starts no more requests and waits for those in flight. -/
def beginRampDown (r : Run) (cutShort cancelled : Bool) (now : Nat) : Except Fault Run := do
  let r := r.rampingDown cutShort
  let deadline ← r.setup.spec.rampDown.past now
  if r.runner.inFlight.isEmpty then r.endRampDown cancelled now
  else .ok { r with stage := .rampDown deadline }

/-! ### Holding a load level -/

/-- Starts one measured request. -/
def issue (r : Run) (phase : Phase) (now : Nat) : Except Fault Run := do
  let runner ← r.runner.issue r.calls now
  return { r with
    runner
    calls := r.calls + 1
    journal := r.journal ++ [.issued phase r.runner.nextId now] }

/-- Starts some measured requests. -/
def issueMany (r : Run) (phase : Phase) (now : Nat) : Nat → Except Fault Run
  | 0 => .ok r
  | n + 1 => do (← r.issue phase now).issueMany phase now n

/-- A request is due: it is started, or skipped if there is no room for it. -/
def arrive (r : Run) (phase : Phase) (now : Nat) : Except Fault Run :=
  if r.runner.isFull r.setup.spec.maxInFlight then
    .ok ({ r with runner := { r.runner with skipped := r.runner.skipped + 1 } }.note
      [.log .debug "In-flight cap reached, skipping arrival"])
  else r.issue phase now

/-- Handles every arrival that is due by `now` and lies before the deadline; `next` is the first of
them, and the result tells the first one left. -/
def catchUp (r : Run) (phase : Phase) (interval deadline now next : Nat) :
    Except Fault (Run × Nat) :=
  if next ≤ now ∧ next < deadline then
    if interval = 0 then .error .stalled
    else
      match r.arrive phase now with
      | .ok r => r.catchUp phase interval deadline now (next + interval)
      | .error fault => .error fault
  else .ok (r, next)
termination_by now + 1 - next
decreasing_by omega

/-- Starts every request that a held level asks for. -/
def issueDue (r : Run) (h : Hold) (now : Nat) : Except Fault Run :=
  match h.pace with
  | .concurrency level => r.issueMany h.phase now (level - r.runner.inFlight.length)
  | .rate interval => do
    let (r, next) ← r.catchUp h.phase interval.nanos h.deadline now (r.runner.nextArrival.getD now)
    return { r with runner := { r.runner with nextArrival := some next } }

/-- Begins to hold a level. At a rate the first request is due one interval from now at the latest,
or at once if none has been due before. -/
def beginHold (r : Run) (phase : Phase) (level : Float) (deadline now : Nat) : Run × Hold :=
  match r.setup.schedule with
  | .concurrency _ => (r, { phase, pace := .concurrency level.toUInt64.toNat, deadline })
  | .rate _ =>
    let interval := arrivalInterval level
    let first := match r.runner.nextArrival with
      | some next => min next (now + interval.nanos)
      | none => now
    ({ r with runner := { r.runner with nextArrival := some first } },
      { phase, pace := .rate interval, deadline })

/-- Reports progress if it is due. -/
def reportProgress (r : Run) (phase : Phase) (now : Nat) : Except Fault Run := do
  if now < r.runner.nextProgress then return r
  -- The times that are passed over ascend, so that the last one tells if any is past the limit.
  let nextProgress ← clockReading
    (firstPast r.setup.progressInterval r.setup.progressInterval_pos now r.runner.nextProgress)
  let elapsed ← Duration.between r.runner.clock now
  let r := { r with runner := { r.runner with nextProgress } }
  return r.publish (.progress r.setup.runId phase r.runner.outcomes.length r.runner.inFlight.length
    elapsed)

/-- Records a request that settled. -/
def record (r : Run) (now : Nat) (settled : Option Settlement) : Except Fault Run :=
  match settled with
  | none => .ok r
  | some s => do
    let runner ← r.runner.record r.setup.host.wall r.setup.spec.requestTimeout now s
    return { r with runner }.note s.ending.notes

/-! ### The phases of a run -/

/-- The run once the last hold of a phase has ended. -/
def loadEnded (r : Run) (phase : Phase) (lasted : Bool) : Run :=
  (r.held phase lasted).phaseCompleted phase r.runner.outcomes.length

/-- Ends the load in a phase; it is cut short unless its last hold lasted. -/
def endLoad (r : Run) (phase : Phase) (lasted cancelled : Bool) (now : Nat) : Except Fault Run :=
  (r.loadEnded phase lasted).beginRampDown (!lasted) cancelled now

/-- Begins to hold the full load. -/
def beginFullLoad (r : Run) (deadline now : Nat) : Run × Hold :=
  (r.phaseStarted .sustained).beginHold .sustained r.setup.schedule.targetLevel deadline now

/-- Holds the full load. -/
def beginSustained (r : Run) (cancelled : Bool) (now : Nat) : Except Fault Run := do
  let deadline ← r.setup.spec.duration.past now
  let (r, hold) := r.beginFullLoad deadline now
  if cancelled then r.endLoad .sustained false cancelled now
  else if deadline ≤ now then r.endLoad .sustained true cancelled now
  else return { ← r.issueDue hold now with stage := .sustained hold }

/-- Begins to hold a step of the rise. -/
def beginStep (r : Run) (step : RampStep) (deadline now : Nat) : Run × Hold :=
  (r.note [.log .debug "Ramp-up step"]).beginHold .rampUp step.level deadline now

/-- Holds the next step of the rise whose deadline is yet to come, or goes on to the full load. -/
def rise (r : Run) (start : Nat) (cancelled : Bool) (now : Nat) :
    List RampStep → Except Fault Run
  | [] => (r.phaseCompleted .rampUp r.runner.outcomes.length).beginSustained cancelled now
  | step :: later => do
    let deadline ← step.finish.past start
    let (r, hold) := r.beginStep step deadline now
    if cancelled then r.endLoad .rampUp false cancelled now
    else if deadline ≤ now then (r.held .rampUp true).rise start cancelled now later
    else return { ← r.issueDue hold now with stage := .rampUp hold start later }

/-- The run at the beginning of its measured part. -/
def measured (r : Run) (now : Nat) : Run :=
  let noted := if r.setup.settings.sampleResources then
      r.note [.sampling .debug "Resource sampler started"]
    else r
  { noted with
    startedAt := r.setup.host.wall now
    runner :=
      { clock := now, nextId := r.setup.firstId, nextProgress := now + r.setup.progressInterval } }

/-- Begins the measured part. -/
def beginMeasured (r : Run) (cancelled : Bool) (now : Nat) : Except Fault Run := do
  let r := r.measured now
  let _ ← clockReading r.runner.nextProgress
  let steps ← r.setup.schedule.rampSteps r.setup.spec.rampUp r.setup.settings.maxRampSteps
  if steps.isEmpty then r.beginSustained cancelled now
  else (r.phaseStarted .rampUp).rise now cancelled now steps

/-- Goes on after a burst: to the measured part, or to the end. -/
def endBurst (r : Run) (phase : Phase) (cancelled : Bool) (now : Nat) : Except Fault Run :=
  let r := r.burstCompleted phase
  if phase = .warmup then r.beginMeasured cancelled now else r.complete

/-- A run that has only been announced, after `calls` earlier calls of the target. -/
def opened (setup : Setup) (calls now : Nat) : Run where
  setup := setup
  calls := calls
  stage := .finished
  runner := { clock := now, nextId := setup.firstId, nextProgress := now }
  journal :=
    [.log .info "Starting load test",
     .event (.runStarted setup.runId setup.spec.name setup.schedule)]

/-- Begins a run at `now` and goes on until it waits. -/
def start (setup : Setup) (calls : Nat) (cancelled : Bool) (now : Nat) : Except Fault Run :=
  let r := opened setup calls now
  if setup.warmupCount = 0 then r.beginMeasured cancelled now
  else
    let (r, burst) := r.beginBurst .warmup setup.warmupCount cancelled now
    if burst.pending.isEmpty then r.endBurst .warmup cancelled now
    else .ok { r with stage := .burst burst }

/-- Answers a signal and goes on until the run waits again. -/
def step (r : Run) (s : Signal) : Except Fault Run :=
  match r.stage with
  | .burst burst =>
    match s.settled with
    | none => .ok r
    | some settled =>
      let (r, burst) := (r.note settled.ending.notes).refillBurst (burst.settle settled.id)
        s.cancelled s.now
      if burst.pending.isEmpty then r.endBurst burst.phase s.cancelled s.now
      else .ok { r with stage := .burst burst }
  | .rampUp hold start later =>
    if s.cancelled then r.endLoad .rampUp false true s.now
    else do
      let r ← (← r.record s.now s.settled).reportProgress hold.phase s.now
      if hold.deadline ≤ s.now then (r.held .rampUp true).rise start false s.now later
      else r.issueDue hold s.now
  | .sustained hold =>
    if s.cancelled then r.endLoad .sustained false true s.now
    else do
      let r ← (← r.record s.now s.settled).reportProgress hold.phase s.now
      if hold.deadline ≤ s.now then r.endLoad .sustained true false s.now
      else r.issueDue hold s.now
  | .rampDown deadline => do
    let r ← r.record s.now s.settled
    if r.runner.inFlight.isEmpty || s.settled.isNone && deadline ≤ s.now then
      r.endRampDown s.cancelled s.now
    else return r
  | .finished => .ok r

/-! ### Views -/

def isFinished (r : Run) : Bool := r.report.isSome

/-- The requests that have been started and have not settled. -/
def pending (r : Run) : List Pending :=
  match r.stage with
  | .burst burst => burst.pending
  | _ => r.runner.inFlight

/-- When the run has to be woken at the latest. -/
def timer? (r : Run) : Option Nat :=
  match r.stage with
  | .rampUp hold _ _ | .sustained hold =>
    let next := min hold.deadline r.runner.nextProgress
    match hold.pace with
    | .concurrency _ => some next
    | .rate _ => some (min next (r.runner.nextArrival.getD next))
  | .rampDown deadline => some deadline
  | _ => none

/-- Whether the run is woken when it is cancelled. -/
def heedsCancellation (r : Run) : Bool := r.stage.hold?.isSome

/-- The events that have been published, in order. -/
def events (r : Run) : List Event := r.journal.filterMap Note.event?

/-- What the run has done: its journal without the lines that it logged. -/
def trace (r : Run) : List Note := r.journal.filter fun n => !n.isLine

/-- The lines that have been logged, in order. -/
def lines (r : Run) : List LogLine := r.journal.filterMap Note.line?

end Run

end LoadTest
