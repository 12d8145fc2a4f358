import LoadTest.Proofs.RunPassage
import Mathlib.Data.List.Basic

/-!
# What the events of a run tell

A finished run has published the events of its phases in order: each phase is announced, may report
progress and is completed, and which of the optional phases are there is settled by the
specification and by whether the load was cut short. `Story` holds what is free in such a sequence,
and `Tells` says which part of it a run has told at each place of its course.
-/

namespace LoadTest.Proofs

/-- What the events of a phase tell in which load is held: the reports of progress, with the
requests recorded, those in flight and the time, and the requests recorded in the end. -/
structure LoadStory where
  reports : List (Nat × Nat × Duration)
  completed : Nat

/-- What the events of a run tell. -/
structure Story where
  warmup : Bool
  rampUp : Option LoadStory
  sustained : Option LoadStory
  /-- The requests recorded when the measured part was over. -/
  settled : Nat
  cooldown : Bool
  total : Nat
  errorRate : Float
  cancelled : Bool

section Events

variable (setup : Setup)

/-- The events of a phase up to its last report of progress. -/
def begunEvents (phase : Phase) (reports : List (Nat × Nat × Duration)) : List Event :=
  .phaseStarted setup.runId phase ::
    reports.map fun (completed, inFlight, elapsed) =>
      .progress setup.runId phase completed inFlight elapsed

def LoadStory.events (phase : Phase) (s : LoadStory) : List Event :=
  begunEvents setup phase s.reports ++ [.phaseCompleted setup.runId phase s.completed]

/-- The events of a phase that may be missing. -/
def loadEvents (phase : Phase) (s : Option LoadStory) : List Event :=
  (s.map (LoadStory.events setup phase)).getD []

/-- The events of a burst that may be missing. -/
def burstEvents (phase : Phase) (present : Bool) : List Event :=
  if present then [.phaseStarted setup.runId phase, .phaseCompleted setup.runId phase 0] else []

def startEvent : Event := .runStarted setup.runId setup.spec.name setup.schedule

def Story.events (s : Story) : List Event :=
  startEvent setup :: burstEvents setup .warmup s.warmup ++ loadEvents setup .rampUp s.rampUp ++
    loadEvents setup .sustained s.sustained ++
    [.phaseStarted setup.runId .rampDown, .phaseCompleted setup.runId .rampDown s.settled] ++
    burstEvents setup .cooldown s.cooldown ++
    [.runCompleted setup.runId s.total s.errorRate s.cancelled]

end Events

/-- The requests recorded so far, as an event of a measured phase gives them. -/
def recorded? : Event → Option Nat
  | .progress _ phase completed _ _ | .phaseCompleted _ phase completed =>
    if phase.isMeasured then some completed else none
  | _ => none

/-- A step of the rise was held until the run was cancelled. -/
def RiseCut (r : Run) : Prop := Note.held .rampUp false ∈ r.trace

/-- Whether the load rises in steps. -/
def Rises (setup : Setup) (rises : Bool) : Prop :=
  ∃ steps, setup.schedule.rampSteps setup.spec.rampUp setup.settings.maxRampSteps = .ok steps ∧
    (rises = true ↔ steps ≠ [])

/-- The events of a finished run follow a story, and the specification and the course of the run
settle which phases it has. -/
structure Follows (setup : Setup) (r : Run) (s : Story) : Prop where
  events : r.events = s.events setup
  warmup : s.warmup = true ↔ ∃ n, setup.spec.warmupRequests = some n ∧ 0 < n
  rampUp : Rises setup s.rampUp.isSome
  sustained : s.sustained.isSome = true ↔ ¬RiseCut r
  cooldown : s.cooldown = true ↔
    s.cancelled = false ∧ ∃ n, setup.spec.cooldownRequests = some n ∧ 0 < n
  ascending : (r.events.filterMap recorded?).Pairwise (· ≤ ·)
  total : s.total = s.settled

/-! ### The events so far -/

section Tells

variable (setup : Setup)

/-- The events before the measured part. -/
def openingEvents : List Event :=
  startEvent setup :: burstEvents setup .warmup (setup.warmupCount ≠ 0)

/-- The events before the ramp-down. -/
def loadedEvents (rampUp sustained : Option LoadStory) : List Event :=
  openingEvents setup ++ (loadEvents setup .rampUp rampUp ++ loadEvents setup .sustained sustained)

/-- The events of the measured part and before. -/
def settledEvents (rampUp sustained : Option LoadStory) (settled : Nat) : List Event :=
  loadedEvents setup rampUp sustained ++
    [.phaseStarted setup.runId .rampDown, .phaseCompleted setup.runId .rampDown settled]

/-- The load is over, and the story tells which phases it had. -/
structure Loaded (r : Run) (rampUp sustained : Option LoadStory) : Prop where
  rises : Rises setup rampUp.isSome
  sustains : sustained.isSome = true ↔ ¬RiseCut r

/-- What the events of a run have told by the time it stands at a place. -/
def Tells (r : Run) : Place → Prop
  | .opened => r.events = [startEvent setup] ∧ ¬RiseCut r
  | .ready => r.events = openingEvents setup ∧ ¬RiseCut r
  | .measuring steps => (r.events = openingEvents setup ∧ ¬RiseCut r) ∧
    setup.schedule.rampSteps setup.spec.rampUp setup.settings.maxRampSteps = .ok steps
  | .rising _ _ | .within (.rampUp _ _ _) => ∃ reports,
    (r.events = openingEvents setup ++ begunEvents setup .rampUp reports ∧ ¬RiseCut r) ∧
      Rises setup true
  | .risen => ∃ rampUp,
    (r.events = openingEvents setup ++ loadEvents setup .rampUp rampUp ∧ ¬RiseCut r) ∧
      Rises setup rampUp.isSome
  | .within (.sustained _) => ∃ rampUp reports,
    (r.events = openingEvents setup ++ (loadEvents setup .rampUp rampUp ++
      begunEvents setup .sustained reports) ∧ ¬RiseCut r) ∧ Rises setup rampUp.isSome
  | .unloaded _ => ∃ rampUp sustained,
    r.events = loadedEvents setup rampUp sustained ∧ Loaded setup r rampUp sustained
  | .within (.rampDown _) => ∃ rampUp sustained,
    r.events = loadedEvents setup rampUp sustained ++ [.phaseStarted setup.runId .rampDown] ∧
      Loaded setup r rampUp sustained
  | .drained => ∃ rampUp sustained,
    r.events = settledEvents setup rampUp sustained r.runner.outcomes.length ∧
      Loaded setup r rampUp sustained
  | .within (.burst b) =>
    if b.phase = .warmup then
      (r.events = [startEvent setup, .phaseStarted setup.runId .warmup] ∧ ¬RiseCut r) ∧
        setup.warmupCount ≠ 0
    else
      (∃ rampUp sustained,
        r.events = settledEvents setup rampUp sustained r.runner.outcomes.length ++
          [.phaseStarted setup.runId .cooldown] ∧ Loaded setup r rampUp sustained) ∧
        r.cooldownCount ≠ 0
  | .closing => ∃ rampUp sustained,
    r.events = settledEvents setup rampUp sustained r.runner.outcomes.length ++
      burstEvents setup .cooldown (r.cooldownCount ≠ 0) ∧ Loaded setup r rampUp sustained
  | .within .finished => ∃ rampUp sustained errorRate,
    r.events = settledEvents setup rampUp sustained r.runner.outcomes.length ++
      (burstEvents setup .cooldown (r.cooldownCount ≠ 0) ++
        [.runCompleted setup.runId r.runner.outcomes.length errorRate r.cutShort]) ∧
      Loaded setup r rampUp sustained

end Tells

section Passage

variable {setup : Setup} {calls now : Nat} {cancelled : Bool} {place : Place} {r r' : Run}

lemma Loaded.of_riseCut {rampUp sustained : Option LoadStory}
    (h : Loaded setup r rampUp sustained) (hcut : RiseCut r' ↔ RiseCut r) :
    Loaded setup r' rampUp sustained :=
  ⟨h.rises, by rw [h.sustains, hcut]⟩

/-- What is told does not change while nothing is published, nor do the counts that it gives. -/
lemma Tells.of_same (h : Tells setup r place) (hevents : r'.events = r.events)
    (hcut : RiseCut r' ↔ RiseCut r)
    (hover : place.part = .cooldown → r'.runner.outcomes.length = r.runner.outcomes.length ∧
      r'.cutShort = r.cutShort ∧ r'.setup = r.setup) : Tells setup r' place := by
  have hloaded : ∀ rampUp sustained, Loaded setup r' rampUp sustained ↔
      Loaded setup r rampUp sustained := fun _ _ =>
    ⟨fun h => h.of_riseCut hcut.symm, fun h => h.of_riseCut hcut⟩
  have hcount : place.part = .cooldown → r'.cooldownCount = r.cooldownCount := by
    intro hpart
    rw [Run.cooldownCount, (hover hpart).2.1, (hover hpart).2.2, Run.cooldownCount]
  cases place with
  | within stage => cases stage <;> simp_all [Tells, Place.part]
  | _ => simp_all [Tells, Place.part]

@[simp] lemma riseCut_note (notes : List Note) :
    RiseCut (r.note notes) ↔ RiseCut r ∨ Note.held .rampUp false ∈ notes := by
  rw [RiseCut, RiseCut, note_trace, List.mem_append]
  simp

/-- What the notes that an action leaves add to what is told. -/
lemma told_append {notes : List Note} (htrace : r'.trace = r.trace ++ notes) :
    r'.events = r.events ++ notes.filterMap Note.event? ∧
      (RiseCut r' ↔ RiseCut r ∨ Note.held .rampUp false ∈ notes) := by
  constructor
  · rw [events_eq_trace, htrace, List.filterMap_append, events_eq_trace]
  · rw [RiseCut, RiseCut, htrace, List.mem_append]

section Actions

variable (r : Run) (now : Nat)

@[simp] lemma measured_told :
    (r.measured now).events = r.events ∧ (RiseCut (r.measured now) ↔ RiseCut r) := by
  simp [events_eq_trace, RiseCut]

@[simp] lemma beginHold_told (phase : Phase) (level : Float) (deadline : Nat) :
    (r.beginHold phase level deadline now).1.events = r.events ∧
      (RiseCut (r.beginHold phase level deadline now).1 ↔ RiseCut r) := by
  simp [events_eq_trace, RiseCut]

@[simp] lemma rampingDown_told (cutShort : Bool) :
    (r.rampingDown cutShort).events = r.events ++ [.phaseStarted r.setup.runId .rampDown] ∧
      (RiseCut (r.rampingDown cutShort) ↔ RiseCut r) := by
  simp [events_eq_trace, RiseCut]

@[simp] lemma drained_told (elapsed : Duration) :
    (r.drained elapsed now).events = r.events ++
      [.phaseCompleted r.setup.runId .rampDown r.runner.outcomes.length] ∧
      (RiseCut (r.drained elapsed now) ↔ RiseCut r) := by
  simp [events_eq_trace, RiseCut]

@[simp] lemma completed_told (report : Report) :
    (r.completed report).events = r.events ++
      [.runCompleted r.setup.runId report.totalRequests report.errorRate r.cutShort] ∧
      (RiseCut (r.completed report) ↔ RiseCut r) := by
  simp [events_eq_trace, RiseCut]

end Actions

/-- What is told does not change if an action leaves no event. -/
lemma Tells.of_silent {notes : List Note} (h : Tells setup r place)
    (htrace : r'.trace = r.trace ++ notes) (hnotes : notes.filterMap Note.event? = [])
    (hcut : Note.held .rampUp false ∉ notes)
    (hover : place.part = .cooldown → r'.runner.outcomes.length = r.runner.outcomes.length ∧
      r'.cutShort = r.cutShort ∧ r'.setup = r.setup) : Tells setup r' place := by
  obtain ⟨hevents, hcut'⟩ := told_append htrace
  rw [hnotes, List.append_nil] at hevents
  refine h.of_same hevents ?_ hover
  rw [hcut', or_iff_left hcut]

/-- A report of progress belongs to the phase that holds the load. -/
lemma Tells.of_reportProgress {stage : Stage} {hold : Hold} (h : Tells setup r (.within stage))
    (hhold : stage.hold? = some hold) (hplace : (Place.within stage).WellFormed)
    (hsetup : r.setup = setup) (hreport : r.reportProgress hold.phase now = .ok r') :
    Tells setup r' (.within stage) := by
  obtain ⟨-, rfl⟩ | ⟨-, elapsed, nextProgress, -, -, hr'⟩ := reportProgress_ok hreport
  · exact h
  obtain ⟨hevents', hcut'⟩ : r'.events = r.events ++ [.progress setup.runId hold.phase
      r.runner.outcomes.length r.runner.inFlight.length elapsed] ∧ (RiseCut r' ↔ RiseCut r) := by
    rw [hr', ← hsetup]
    exact ⟨note_events .., by simp [RiseCut]⟩
  have hbegun : ∀ reports, begunEvents setup hold.phase (reports ++
      [(r.runner.outcomes.length, r.runner.inFlight.length, elapsed)]) =
      begunEvents setup hold.phase reports ++ [.progress setup.runId hold.phase
        r.runner.outcomes.length r.runner.inFlight.length elapsed] := by
    intro reports
    simp [begunEvents]
  cases stage with
  | rampUp =>
    cases hhold
    rw [show hold.phase = .rampUp from hplace] at hevents' hbegun
    obtain ⟨reports, ⟨hevents, hcut⟩, hrises⟩ := h
    rw [hevents, List.append_assoc, ← hbegun] at hevents'
    exact ⟨_, ⟨hevents', by rwa [hcut']⟩, hrises⟩
  | sustained =>
    cases hhold
    rw [show hold.phase = .sustained from hplace] at hevents' hbegun
    obtain ⟨rampUp, reports, ⟨hevents, hcut⟩, hrises⟩ := h
    rw [hevents, List.append_assoc, List.append_assoc, ← hbegun] at hevents'
    exact ⟨rampUp, _, ⟨hevents', by rwa [hcut']⟩, hrises⟩
  | _ => cases hhold

lemma passes_tells (h : Passes setup calls place now cancelled r) : Tells setup r place := by
  induction h with
  | opened => simp [Tells, events_eq_trace, RiseCut, startEvent]
  | elapse _ _ _ ih => exact ih
  | wait _ ih => exact ih.of_same rfl .rfl fun _ => ⟨rfl, rfl, rfl⟩
  | skipWarmup _ hcount ih => simpa [Tells, openingEvents, burstEvents, hcount] using ih
  | beginWarmup h hcount ih =>
    obtain ⟨hevents, hcut⟩ := ih
    simp [Tells, Setup.burst, hevents, hcut, hcount, passes_setup h, List.filterMap_cons]
  | issueBurst _ _ ih =>
    exact ih.of_silent (issueBurst_trace ..) rfl (by simp) fun _ => ⟨rfl, rfl, rfl⟩
  | settleBurst s _ ih =>
    refine ih.of_silent (note_trace ..) ?_ ?_ fun _ => ⟨rfl, rfl, rfl⟩ <;>
      simp [ending_notes_filter]
  | endWarmup h hphase _ _ ih =>
    simp only [Tells, hphase, if_true] at ih
    obtain ⟨⟨hevents, hcut⟩, hcount⟩ := ih
    simp [Tells, openingEvents, burstEvents, hevents, hcut, hcount, passes_setup h,
      List.filterMap_cons]
  | beginCooldown h hcount ih =>
    obtain ⟨rampUp, sustained, hevents, hloaded⟩ := ih
    refine ⟨⟨rampUp, sustained, ?_, hloaded.of_riseCut (by simp)⟩, hcount⟩
    simp [hevents, passes_setup h, List.filterMap_cons]
  | endCooldown h hphase _ _ ih =>
    simp only [Tells, hphase] at ih
    obtain ⟨⟨rampUp, sustained, hevents, hloaded⟩, hcount⟩ := ih
    refine ⟨rampUp, sustained, ?_, hloaded.of_riseCut (by simp)⟩
    simp [hevents, burstEvents, hcount, passes_setup h, List.filterMap_cons]
  | skipCooldown _ hcount ih =>
    obtain ⟨rampUp, sustained, hevents, hloaded⟩ := ih
    exact ⟨rampUp, sustained, by simp [hevents, burstEvents, hcount], hloaded⟩
  | beginMeasured h hsteps ih =>
    obtain ⟨hevents, hcut⟩ := ih
    exact ⟨⟨by simpa using hevents, by simpa using hcut⟩, hsteps⟩
  | skipRise h ih =>
    obtain ⟨⟨hevents, hcut⟩, hsteps⟩ := ih
    exact ⟨none, ⟨by simpa [loadEvents] using hevents, hcut⟩, [], hsteps, by simp⟩
  | beginRise h hsteps ih =>
    obtain ⟨⟨hevents, hcut⟩, hrises⟩ := ih
    refine ⟨[], ⟨?_, by simp [hcut]⟩, _, hrises, by simp [hsteps]⟩
    simp [hevents, begunEvents, passes_setup h, List.filterMap_cons]
  | beginStep _ _ ih =>
    obtain ⟨reports, ⟨hevents, hcut⟩, hrises⟩ := ih
    exact ⟨reports, ⟨by simp [hevents], by simp [hcut]⟩, hrises⟩
  | beginSustained h _ ih =>
    obtain ⟨rampUp, ⟨hevents, hcut⟩, hrises⟩ := ih
    refine ⟨rampUp, [], ⟨?_, by simp [hcut]⟩, hrises⟩
    simp [hevents, begunEvents, passes_setup h, List.filterMap_cons]
  | beginRampDown h _ ih =>
    obtain ⟨rampUp, sustained, hevents, hloaded⟩ := ih
    refine ⟨rampUp, sustained, ?_, hloaded.of_riseCut (by simp)⟩
    simp [hevents, passes_setup h]
  | schedule _ _ _ _ ih => exact ih.of_same rfl .rfl fun _ => ⟨rfl, rfl, rfl⟩
  | endStep _ _ ih =>
    obtain ⟨reports, ⟨hevents, hcut⟩, hrises⟩ := ih
    exact ⟨reports, ⟨by simp [hevents], by simp [hcut]⟩, hrises⟩
  | @endRise _ _ _ r h ih =>
    obtain ⟨reports, ⟨hevents, hcut⟩, hrises⟩ := ih
    refine ⟨some ⟨reports, r.runner.outcomes.length⟩, ⟨?_, by simp [hcut]⟩, hrises⟩
    simp [hevents, loadEvents, LoadStory.events, passes_setup h]
  | @cutRise _ _ _ _ r h ih =>
    obtain ⟨reports, ⟨hevents, hcut⟩, hrises⟩ := ih
    refine ⟨some ⟨reports, r.runner.outcomes.length⟩, none, ?_, hrises, by simp⟩
    simp [hevents, loadedEvents, loadEvents, LoadStory.events, passes_setup h,
      List.filterMap_cons]
  | @endSustained _ _ r h _ ih | @cutSustained _ _ r h ih =>
    obtain ⟨rampUp, reports, ⟨hevents, hcut⟩, hrises⟩ := ih
    refine ⟨rampUp, some ⟨reports, r.runner.outcomes.length⟩, ?_, hrises, by simp [hcut]⟩
    simp [hevents, loadedEvents, loadEvents, LoadStory.events, passes_setup h,
      List.filterMap_cons]
  | endRampDown h _ _ ih =>
    obtain ⟨rampUp, sustained, hevents, hloaded⟩ := ih
    refine ⟨rampUp, sustained, ?_, hloaded.of_riseCut (by simp)⟩
    simp [hevents, settledEvents, passes_setup h]
  | complete h hcomplete ih =>
    obtain ⟨report, hreport, rfl⟩ := complete_ok hcomplete
    obtain ⟨rampUp, sustained, hevents, hloaded⟩ := ih
    refine ⟨rampUp, sustained, report.errorRate, ?_, hloaded.of_riseCut (by simp)⟩
    simp [hevents, passes_setup h, account_report_ok hreport]
  | refill _ hhold _ _ _ hissue ih =>
    obtain ⟨-, rfl⟩ := issue_ok hissue
    exact ih.of_silent (issuedRun_trace ..) rfl (by simp) fun _ => ⟨rfl, rfl, rfl⟩
  | arrive _ hhold _ _ harrive ih =>
    obtain ⟨-, rfl⟩ | ⟨-, -, rfl⟩ := arrive_ok harrive
    · exact ih.of_silent (note_trace ..) rfl (by simp) fun _ => ⟨rfl, rfl, rfl⟩
    · exact ih.of_silent (issuedRun_trace ..) rfl (by simp) fun _ => ⟨rfl, rfl, rfl⟩
  | record _ hstage hrecord ih =>
    obtain ⟨runner, notes, hnotes, rfl, -⟩ := record_ok hrecord
    refine ih.of_silent (note_trace ..) (by simp [hnotes]) (by simp [hnotes]) fun hpart => ?_
    -- The count of outcomes grows here, but it is told of in the cooldown only.
    rw [hstage] at hpart
    cases hpart
  | reportProgress h hhold hreport ih =>
    -- The only event that does not move the run to another place.
    exact ih.of_reportProgress hhold (passes_wellFormed h) (passes_setup h) hreport

/-! ### The counts so far -/

/-- The counts that the events of measured phases have given so far ascend, up to the number of
requests recorded by now. -/
structure Ascends (r : Run) : Prop where
  ascending : (r.events.filterMap recorded?).Pairwise (· ≤ ·)
  bounded : ∀ n ∈ r.events.filterMap recorded?, n ≤ r.runner.outcomes.length

namespace Ascends

lemma of_events {new : List Event} (h : Ascends r) (hevents : r'.events = r.events ++ new)
    (hnew : new.filterMap recorded? = [] ∨ new.filterMap recorded? = [r.runner.outcomes.length])
    (hgrows : r.runner.outcomes.length ≤ r'.runner.outcomes.length) : Ascends r' := by
  have hcounts : r'.events.filterMap recorded? =
      r.events.filterMap recorded? ++ new.filterMap recorded? := by
    rw [hevents, List.filterMap_append]
  obtain hnone | hone := hnew
  · rw [hnone, List.append_nil] at hcounts
    exact ⟨hcounts ▸ h.ascending, fun n hn => Nat.le_trans (h.bounded n (hcounts ▸ hn)) hgrows⟩
  · rw [hone] at hcounts
    constructor
    · rw [hcounts, List.pairwise_append]
      refine ⟨h.ascending, List.pairwise_singleton .., fun m hm n hn => ?_⟩
      rw [List.mem_singleton.1 hn]
      exact h.bounded m hm
    · intro n hn
      rw [hcounts, List.mem_append, List.mem_singleton] at hn
      obtain hn | rfl := hn
      · exact Nat.le_trans (h.bounded n hn) hgrows
      · exact hgrows

lemma of_silent (h : Ascends r) (hevents : r'.events = r.events)
    (hgrows : r.runner.outcomes.length ≤ r'.runner.outcomes.length) : Ascends r' :=
  h.of_events (hevents.trans (List.append_nil _).symm) (.inl rfl) hgrows

lemma of_note {notes : List Note} (h : Ascends r)
    (hnotes : (notes.filterMap Note.event?).filterMap recorded? = [] ∨
      (notes.filterMap Note.event?).filterMap recorded? = [r.runner.outcomes.length]) :
    Ascends (r.note notes) :=
  h.of_events (note_events ..) hnotes (Nat.le_refl _)

lemma of_beginHold {phase : Phase} {level : Float} {deadline : Nat} (h : Ascends r) :
    Ascends (r.beginHold phase level deadline now).1 :=
  h.of_silent (by simp) (by simp)

end Ascends

lemma passes_ascends (h : Passes setup calls place now cancelled r) : Ascends r := by
  induction h with
  | opened => exact ⟨.nil, fun n hn => by cases hn⟩
  | elapse _ _ _ ih | skipWarmup _ _ ih | skipCooldown _ _ ih | skipRise _ ih => exact ih
  | wait _ ih => exact ⟨ih.ascending, ih.bounded⟩
  | @beginMeasured _ now _ r h _ _ =>
    -- The runner starts afresh, but no count has been given by then.
    have hnone : (r.measured now).events.filterMap recorded? = [] := by
      rw [(measured_told r now).1, (passes_tells h).1, openingEvents, burstEvents]
      split <;> rfl
    refine ⟨hnone ▸ .nil, fun n hn => ?_⟩
    rw [hnone] at hn
    cases hn
  | beginWarmup _ _ ih | beginCooldown _ _ ih | beginRise _ _ ih | endStep _ _ ih =>
    exact ih.of_note (.inl rfl)
  | endRise _ ih => exact ih.of_note (.inr rfl)
  | settleBurst s _ ih =>
    refine ih.of_silent ?_ (Nat.le_refl _)
    simp [events_eq_trace, ending_notes_filter]
  | issueBurst _ _ ih => exact ih.of_silent (by simp [events_eq_trace]) (Nat.le_refl _)
  | schedule _ _ _ _ ih => exact ih.of_silent rfl (Nat.le_refl _)
  | endWarmup _ _ _ _ ih | endCooldown _ _ _ _ ih =>
    exact (ih.of_note (.inl rfl)).of_note (.inl rfl)
  | cutRise _ ih | endSustained _ _ ih | cutSustained _ ih =>
    exact (ih.of_note (.inl rfl)).of_note (.inr rfl)
  | beginStep _ _ ih | beginSustained _ _ ih => exact (ih.of_note (.inl rfl)).of_beginHold
  | beginRampDown _ _ ih => exact ih.of_events (rampingDown_told ..).1 (.inl rfl) (by simp)
  | refill _ _ _ _ _ hissue ih =>
    obtain ⟨-, rfl⟩ := issue_ok hissue
    exact ih.of_silent (by simp [events_eq_trace]) (Nat.le_refl _)
  | arrive _ _ _ _ harrive ih =>
    obtain ⟨-, rfl⟩ | ⟨-, -, rfl⟩ := arrive_ok harrive
    · exact ih.of_silent (by simp [events_eq_trace]) (Nat.le_refl _)
    · exact ih.of_silent (by simp [events_eq_trace]) (Nat.le_refl _)
  | reportProgress h hhold hreport ih =>
    obtain ⟨-, rfl⟩ | ⟨-, elapsed, nextProgress, -, -, rfl⟩ := reportProgress_ok hreport
    · exact ih
    · refine ih.of_events (note_events ..) (.inr ?_) (Nat.le_refl _)
      simp [recorded?, isMeasured_of_hold (passes_wellFormed h) hhold]
  | record _ _ hrecord ih =>
    obtain ⟨runner, notes, hnotes, rfl, hrunner⟩ := record_ok hrecord
    refine ih.of_silent (by simp [events_eq_trace, hnotes]) ?_
    obtain rfl | ⟨_, _, _, _, rfl⟩ := hrunner
    · exact Nat.le_refl _
    · simp
  | endRampDown _ _ _ ih => exact ih.of_events (drained_told ..).1 (.inr rfl) (by simp)
  | complete _ hcomplete ih =>
    obtain ⟨report, -, rfl⟩ := complete_ok hcomplete
    exact ih.of_events (completed_told ..).1 (.inl rfl) (by simp)

lemma exists_pos_iff {n? : Option Nat} : (∃ n, n? = some n ∧ 0 < n) ↔ n?.getD 0 ≠ 0 := by
  cases n? with
  | none => simp
  | some n => simp [Nat.pos_iff_ne_zero]

/-- The events of a run that has its report follow a story. -/
lemma passes_follows {report : Report} (h : Passes setup calls place now cancelled r)
    (hreport : r.report = some report) : ∃ story, Follows setup r story := by
  obtain ⟨rfl, -, -⟩ := passes_report h hreport
  obtain ⟨rampUp, sustained, errorRate, hevents, hloaded⟩ := passes_tells h
  refine ⟨{ warmup := setup.warmupCount ≠ 0, rampUp, sustained, settled := r.runner.outcomes.length,
            cooldown := r.cooldownCount ≠ 0, total := r.runner.outcomes.length, errorRate,
            cancelled := r.cutShort }, ?_⟩
  constructor
  case events => simp [hevents, Story.events, settledEvents, loadedEvents, openingEvents]
  case warmup =>
    rw [exists_pos_iff]
    exact decide_eq_true_iff
  case rampUp => exact hloaded.rises
  case sustained => exact hloaded.sustains
  case cooldown =>
    rw [exists_pos_iff, decide_eq_true_iff, Run.cooldownCount, passes_setup h]
    cases r.cutShort <;> simp
  case ascending => exact (passes_ascends h).ascending
  case total => rfl

end Passage

/-- The events of a run follow the grammar of its phases, and they are what a generator that executes
it publishes. An invalid specification starts no run: the generator, with its clock, its count of
calls and its channel of events, is as it was. -/
theorem events_follow_grammar (g : Generator) (spec : Spec) :
    (∀ flaw, spec.validate = .error flaw → g.execute spec = .ok (.error flaw.toFailure, g)) ∧
    ∀ schedule, spec.validate = .ok schedule →
      (∀ now cancelled r, Reachable (g.setup spec schedule) g.calls now cancelled r →
        r.isFinished = true → ∃ story, Follows (g.setup spec schedule) r story) ∧
      ∀ r g', g.execute spec = .ok (.ok r, g') →
        Reachable (g.setup spec schedule) g.calls g'.now (g.world.isCancelled g'.now) r ∧
          r.isFinished = true ∧ g'.published = g.published ++ r.events := by
  refine ⟨fun flaw hflaw => ?_, fun schedule hvalid => ⟨fun now cancelled r hreach hfinished => ?_,
    fun r g' hexecute => ?_⟩⟩
  · rw [Generator.execute, hflaw]
  · obtain ⟨report, hreport⟩ := Option.isSome_iff_exists.1 hfinished
    exact passes_follows (passes_of_reachable hreach) hreport
  · obtain ⟨schedule', hvalid', hreach, hfinished⟩ := reachable_of_execute hexecute
    obtain rfl : schedule = schedule' := Except.ok.inj (hvalid.symm.trans hvalid')
    obtain ⟨-, -, -, -, -, hafter⟩ := execute_ok hexecute
    exact ⟨hreach, hfinished, congrArg Generator.published hafter⟩

/-- A run that passes through every phase. -/
def steadyGenerator : Generator := { script := { calls := [{ delay := .ofMillis 3 }] } }

def steadySpec : Spec :=
  { concurrency := some 2, duration := .ofMillis 10, rampUp := .ofMillis 4,
    warmupRequests := some 1, cooldownRequests := some 1 }

theorem events_follow_grammar_steady :
    steadySpec.validate = .ok (.concurrency 2) ∧
    ∃ r g' story, executed? steadyGenerator steadySpec = some (r, g') ∧
      Follows (steadyGenerator.setup steadySpec (.concurrency 2)) r story ∧
      story.warmup = true ∧ g'.published = r.events ∧ r.events.length = 12 := by
  have hvalid : steadySpec.validate = .ok (.concurrency 2) := rfl
  obtain ⟨hfollows, hexecutes⟩ :=
    (events_follow_grammar steadyGenerator steadySpec).2 (.concurrency 2) hvalid
  have hlength : (executed? steadyGenerator steadySpec).map (fun e => e.1.events.length) =
      some 12 := by decide +kernel
  obtain ⟨⟨r, g'⟩, hexecuted, hlength⟩ := Option.map_eq_some_iff.1 hlength
  obtain ⟨hreach, hfinished, hpublished⟩ := hexecutes r g' (executed?_eq_some.1 hexecuted)
  obtain ⟨story, hstory⟩ := hfollows _ _ r hreach hfinished
  exact ⟨hvalid, r, g', story, hexecuted, hstory, hstory.warmup.2 ⟨1, rfl, by decide⟩, hpublished,
    hlength⟩

end LoadTest.Proofs
