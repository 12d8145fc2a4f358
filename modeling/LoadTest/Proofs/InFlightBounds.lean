import LoadTest.Proofs.RunPassage
import LoadTest.Proofs.Trace
import Mathlib

/-!
# How many requests are in flight

A run plans the levels at which it holds its load: those of the rise, then the full load. As long as
requests are kept in flight there are never more of them than the largest level held so far asks for,
and whenever the run waits at a level there are at least as many as it asks for. At a rate there are
never more than the specification allows. Once the load is taken off no request is started.
-/

namespace LoadTest.Proofs

/-! ### The levels of a run -/

section Levels

/-- The levels at which a run is to hold its load, in order. -/
def plannedLevels (setup : Setup) : List Float :=
  match setup.schedule.rampSteps setup.spec.rampUp setup.settings.maxRampSteps with
  | .ok steps => steps.map RampStep.level ++ [setup.schedule.targetLevel]
  | .error _ => []

def paceAt (schedule : Schedule) (level : Float) : Pace :=
  match schedule with
  | .concurrency _ => .concurrency level.toUInt64.toNat
  | .rate _ => .rate (arrivalInterval level)

def Place.hold? : Place → Option Hold
  | .within stage => stage.hold?
  | _ => none

/-- The levels to be held later, while load is held or about to be. -/
def Place.levelsLeft? (target : Float) : Place → Option (List Float)
  | .measuring later | .rising _ later | .within (.rampUp _ _ later) =>
    some (later.map RampStep.level ++ [target])
  | .risen => some [target]
  | .within (.sustained _) => some []
  | _ => none

def endsHold : Note → Bool
  | .held _ _ => true
  | _ => false

def holdsEnded (r : Run) : Nat := r.trace.countP endsHold

/-- How many levels have been held, or are. -/
def holdsBegun (place : Place) (r : Run) : Nat :=
  holdsEnded r + if place.hold?.isSome then 1 else 0

/-- The levels that have been held so far, the last of them perhaps still. -/
def levelsHeld (setup : Setup) (place : Place) (r : Run) : List Float :=
  (plannedLevels setup).take (holdsBegun place r)

/-- The most requests that one of some levels keeps in flight. -/
def largestLevel (levels : List Float) : Nat :=
  (levels.map fun level => level.toUInt64.toNat).foldr max 0

lemma le_largestLevel {levels : List Float} {level : Float} (h : level ∈ levels) :
    level.toUInt64.toNat ≤ largestLevel levels := by
  induction levels with
  | nil => cases h
  | cons first rest ih =>
    unfold largestLevel at ih ⊢
    rw [List.map_cons, List.foldr_cons]
    obtain rfl | h := List.mem_cons.1 h
    · exact Nat.le_max_left ..
    · exact Nat.le_trans (ih h) (Nat.le_max_right ..)

lemma largestLevel_take_mono (levels : List Float) {m n : Nat} (h : m ≤ n) :
    largestLevel (levels.take m) ≤ largestLevel (levels.take n) := by
  induction levels generalizing m n with
  | nil => simp
  | cons first rest ih =>
    cases m with
    | zero => exact Nat.zero_le _
    | succ m =>
      obtain ⟨n, rfl⟩ : ∃ n', n = n' + 1 := ⟨n - 1, by omega⟩
      have hrest := ih (show m ≤ n by omega)
      unfold largestLevel at hrest ⊢
      simp only [List.take_succ_cons, List.map_cons, List.foldr_cons]
      omega

lemma holdsEnded_append {r r' : Run} {notes : List Note} (h : r'.trace = r.trace ++ notes) :
    holdsEnded r' = holdsEnded r + notes.countP endsHold := by
  unfold holdsEnded
  rw [h, List.countP_append]

@[simp] lemma holdsEnded_note (r : Run) (notes : List Note) :
    holdsEnded (r.note notes) =
      holdsEnded r + (notes.filter fun n => !n.isLine).countP endsHold :=
  holdsEnded_append (note_trace r notes)

lemma beginHold_pace (r : Run) (phase : Phase) (level : Float) (deadline now : Nat) :
    (r.beginHold phase level deadline now).2.pace = paceAt r.setup.schedule level := by
  unfold Run.beginHold paceAt
  cases r.setup.schedule <;> rfl

end Levels

/-- The levels are held as planned. -/
structure OnPlan (setup : Setup) (place : Place) (r : Run) : Prop where
  fresh : place.part = .warmup → holdsEnded r = 0
  left : ∀ levels, place.levelsLeft? setup.schedule.targetLevel = some levels →
    (plannedLevels setup).drop (holdsBegun place r) = levels
  pace : ∀ hold, place.hold? = some hold → ∃ level,
    (plannedLevels setup)[holdsEnded r]? = some level ∧ hold.pace = paceAt setup.schedule level

section Plan

variable {setup : Setup} {calls now : Nat} {cancelled : Bool} {place place' : Place} {r r' : Run}

lemma OnPlan.of_ended (h : OnPlan setup place r) (hended : holdsEnded r' = holdsEnded r) :
    OnPlan setup place r' := by
  constructor
  · rw [hended]
    exact h.fresh
  · unfold holdsBegun
    rw [hended]
    exact h.left
  · rw [hended]
    exact h.pace

/-- Before the first level and after the last one there is no plan to follow. -/
lemma onPlan_of_unplanned (hleft : place.levelsLeft? setup.schedule.targetLevel = none)
    (hhold : place.hold? = none) (hfresh : place.part = .warmup → holdsEnded r = 0) :
    OnPlan setup place r := by
  refine ⟨hfresh, fun levels h => ?_, fun hold h => ?_⟩
  · rw [hleft] at h
    cases h
  · rw [hhold] at h
    cases h

/-- No level begins, and the same ones are left. -/
lemma OnPlan.of_left (h : OnPlan setup place r) (hpart : place'.part ≠ .warmup)
    (hhold : place'.hold? = none)
    (hleft : place'.levelsLeft? setup.schedule.targetLevel =
      place.levelsLeft? setup.schedule.targetLevel)
    (hbegun : holdsBegun place' r' = holdsBegun place r) : OnPlan setup place' r' := by
  refine ⟨fun hwarmup => absurd hwarmup hpart, fun levels hlevels => ?_, fun hold h' => ?_⟩
  · rw [hbegun]
    exact h.left levels (hleft ▸ hlevels)
  · rw [hhold] at h'
    cases h'

/-- The next level of the plan is held. -/
lemma OnPlan.of_next {stage : Stage} {hold : Hold} {level : Float} {later : List Float}
    (h : OnPlan setup place r) (hbefore : place.hold? = none)
    (hnext : place.levelsLeft? setup.schedule.targetLevel = some (level :: later))
    (hhold : stage.hold? = some hold) (hpace : hold.pace = paceAt setup.schedule level)
    (hlater : (Place.within stage).levelsLeft? setup.schedule.targetLevel = some later)
    (hended : holdsEnded r' = holdsEnded r) : OnPlan setup (.within stage) r' := by
  have hdrop : (plannedLevels setup).drop (holdsEnded r) = level :: later := by
    simpa [holdsBegun, hbefore] using h.left _ hnext
  constructor
  · intro hpart
    rw [part_of_hold hhold] at hpart
    cases hpart
  · intro levels hlevels
    obtain rfl : later = levels := Option.some.inj (hlater.symm.trans hlevels)
    have htail := congrArg List.tail hdrop
    rw [List.tail_drop] at htail
    simpa [holdsBegun, Place.hold?, hhold, hended] using htail
  · intro hold' hhold'
    obtain rfl : hold = hold' := Option.some.inj (hhold.symm.trans hhold')
    refine ⟨level, ?_, hpace⟩
    rw [hended, ← List.head?_drop, hdrop, List.head?_cons]

@[simp] lemma holdsEnded_measured : holdsEnded (r.measured now) = holdsEnded r := by
  simp [holdsEnded]

@[simp] lemma holdsEnded_beginHold (phase : Phase) (level : Float) (deadline : Nat) :
    holdsEnded (r.beginHold phase level deadline now).1 = holdsEnded r := by
  simp [holdsEnded]

@[simp] lemma holdsEnded_issuedRun (phase : Phase) :
    holdsEnded (issuedRun r phase now) = holdsEnded r :=
  holdsEnded_append (issuedRun_trace r phase now)

lemma holdsEnded_arrive {phase : Phase} (h : r.arrive phase now = .ok r') :
    holdsEnded r' = holdsEnded r := by
  obtain ⟨_, rfl⟩ | ⟨_, _, rfl⟩ := arrive_ok h
  · exact holdsEnded_note _ _
  · exact holdsEnded_issuedRun phase

lemma holdsEnded_reportProgress {phase : Phase} (h : r.reportProgress phase now = .ok r') :
    holdsEnded r' = holdsEnded r := by
  obtain ⟨_, rfl⟩ | ⟨_, _, _, _, _, rfl⟩ := reportProgress_ok h
  · rfl
  · exact holdsEnded_note _ _

lemma holdsEnded_record {settled : Option Settlement} (h : r.record now settled = .ok r') :
    holdsEnded r' = holdsEnded r := by
  obtain ⟨_, notes, hnotes, rfl, _⟩ := record_ok h
  rw [holdsEnded_note, hnotes]
  rfl

lemma passes_onPlan (h : Passes setup calls place now cancelled r) : OnPlan setup place r := by
  induction h with
  | opened => exact onPlan_of_unplanned rfl rfl fun _ => by simp [holdsEnded, endsHold]
  | elapse _ _ _ ih => exact ih
  | wait _ ih | schedule _ _ _ _ ih => exact ih.of_ended rfl
  | skipWarmup _ _ ih => exact onPlan_of_unplanned rfl rfl fun _ => ih.fresh rfl
  | beginWarmup _ _ ih =>
    refine onPlan_of_unplanned rfl rfl fun _ => ?_
    simpa [endsHold] using ih.fresh rfl
  | issueBurst _ _ ih =>
    refine onPlan_of_unplanned rfl rfl fun hpart => ?_
    rw [holdsEnded_append (issueBurst_trace ..), ih.fresh hpart]
    rfl
  | settleBurst s _ ih =>
    refine onPlan_of_unplanned rfl rfl fun hpart => ?_
    rw [holdsEnded_note, ending_notes_filter, ih.fresh hpart]
    rfl
  | endWarmup _ hphase _ _ ih =>
    refine onPlan_of_unplanned rfl rfl fun _ => ?_
    have hended := ih.fresh (if_pos hphase)
    simpa [endsHold] using hended
  | beginMeasured _ hsteps ih =>
    have hended := ih.fresh rfl
    refine ⟨nofun, fun levels hlevels => ?_, nofun⟩
    cases hlevels
    simp [holdsBegun, Place.hold?, hended, plannedLevels, hsteps]
  | skipRise _ ih => exact ih.of_left (by decide) rfl rfl rfl
  | beginRise _ _ ih =>
    exact ih.of_left (by simp [Place.part]) rfl rfl (by simp [holdsBegun, Place.hold?, endsHold])
  | beginStep hpasses _ ih =>
    refine ih.of_next rfl rfl rfl ?_ rfl ?_
    · simp [beginHold_pace, passes_setup hpasses]
    · simp
  | beginSustained hpasses _ ih =>
    refine ih.of_next rfl rfl rfl ?_ rfl ?_
    · simp [beginHold_pace, passes_setup hpasses]
    · simp [endsHold]
  | refill _ _ _ _ _ hissue ih =>
    obtain ⟨_, rfl⟩ := issue_ok hissue
    exact ih.of_ended (holdsEnded_issuedRun _)
  | arrive _ _ _ _ harrive ih => exact ih.of_ended (holdsEnded_arrive harrive)
  | reportProgress _ _ hreport ih => exact ih.of_ended (holdsEnded_reportProgress hreport)
  | record _ _ hrecord ih => exact ih.of_ended (holdsEnded_record hrecord)
  | endStep _ _ ih =>
    refine ih.of_left (by simp [Place.part]) rfl rfl ?_
    simp [holdsBegun, Place.hold?, Stage.hold?, endsHold]
  | endRise _ ih =>
    refine ih.of_left (by simp [Place.part]) rfl rfl ?_
    simp [holdsBegun, Place.hold?, endsHold]
  | beginCooldown => exact onPlan_of_unplanned rfl rfl fun hpart => by cases hpart
  | _ => exact onPlan_of_unplanned rfl rfl (by simp [Place.part])

/-- The level that is held is the last one so far. -/
lemma OnPlan.getLast?_levelsHeld {stage : Stage} {hold : Hold}
    (h : OnPlan setup (.within stage) r) (hhold : stage.hold? = some hold) :
    ∃ level, (levelsHeld setup (.within stage) r).getLast? = some level ∧
      hold.pace = paceAt setup.schedule level := by
  obtain ⟨level, hlevel, hpace⟩ := h.pace hold hhold
  refine ⟨level, ?_, hpace⟩
  simp [levelsHeld, holdsBegun, Place.hold?, hhold, List.getLast?_take, hlevel]

end Plan

/-! ### At most so many -/

/-- No more requests are in flight than one of the levels held so far asks for; at a rate, no more
than the specification allows. -/
structure Limited (setup : Setup) (place : Place) (r : Run) : Prop where
  levels : ∀ users, setup.schedule = .concurrency users →
    r.runner.inFlight.length ≤ largestLevel (levelsHeld setup place r)
  cap : ∀ rate cap, setup.schedule = .rate rate → setup.spec.maxInFlight = some cap →
    r.runner.inFlight.length ≤ cap

section Limits

variable {setup : Setup} {calls now : Nat} {cancelled : Bool} {place place' : Place} {r r' : Run}

lemma Limited.of_le (h : Limited setup place r)
    (hflight : r'.runner.inFlight.length ≤ r.runner.inFlight.length)
    (hbegun : holdsBegun place r ≤ holdsBegun place' r') : Limited setup place' r' := by
  constructor
  · intro users hschedule
    calc r'.runner.inFlight.length
        ≤ r.runner.inFlight.length := hflight
      _ ≤ largestLevel (levelsHeld setup place r) := h.levels users hschedule
      _ ≤ largestLevel (levelsHeld setup place' r') := largestLevel_take_mono _ hbegun
  · intro rate cap hschedule hcap
    exact Nat.le_trans hflight (h.cap rate cap hschedule hcap)

lemma Limited.of_ended (h : Limited setup place r)
    (hflight : r'.runner.inFlight.length ≤ r.runner.inFlight.length)
    (hended : holdsEnded r' = holdsEnded r) : Limited setup place r' := by
  refine h.of_le hflight (Nat.le_of_eq ?_)
  unfold holdsBegun
  rw [hended]

lemma limited_of_empty (h : r.runner.inFlight = []) : Limited setup place r := by
  constructor
  · intro users _
    simp [h]
  · intro rate cap _ _
    simp [h]

lemma inFlight_sublist_record {settled : Option Settlement} (h : r.record now settled = .ok r') :
    r'.runner.inFlight.Sublist r.runner.inFlight := by
  obtain ⟨runner, notes, _, rfl, rfl | ⟨p, _, o, _, rfl⟩⟩ := record_ok h
  · exact List.Sublist.refl _
  · exact List.filter_sublist

lemma inFlight_reportProgress {phase : Phase} (h : r.reportProgress phase now = .ok r') :
    r'.runner.inFlight = r.runner.inFlight := by
  obtain ⟨_, rfl⟩ | ⟨_, _, _, _, _, rfl⟩ := reportProgress_ok h
  · rfl
  · rfl

/-- A request is started to fill up a level. -/
lemma OnPlan.limited_refill {stage : Stage} {hold : Hold} {level : Nat} {phase : Phase}
    (hplan : OnPlan setup (.within stage) r) (hhold : stage.hold? = some hold)
    (hpace : hold.pace = .concurrency level) (hroom : r.runner.inFlight.length < level) :
    Limited setup (.within stage) (issuedRun r phase now) := by
  obtain ⟨held, hlast, hheld⟩ := hplan.getLast?_levelsHeld hhold
  rw [hpace] at hheld
  constructor
  · intro users hschedule
    have hlevel : level = held.toUInt64.toNat := by simpa [paceAt, hschedule] using hheld
    have hlargest := le_largestLevel (List.mem_of_getLast? hlast)
    unfold levelsHeld holdsBegun at hlargest ⊢
    rw [holdsEnded_issuedRun]
    simp only [issuedRun_fields, issuedRunner, List.length_append, List.length_singleton]
    omega
  · intro rate cap hschedule
    simp [paceAt, hschedule] at hheld

/-- A request is due at a rate. -/
lemma Limited.arrive {stage : Stage} {hold : Hold} {interval : Duration} {phase : Phase}
    (h : Limited setup (.within stage) r) (hplan : OnPlan setup (.within stage) r)
    (hsetup : r.setup = setup) (hhold : stage.hold? = some hold)
    (hpace : hold.pace = .rate interval) (harrive : r.arrive phase now = .ok r') :
    Limited setup (.within stage) r' := by
  obtain ⟨_, rfl⟩ | ⟨hroom, _, rfl⟩ := arrive_ok harrive
  · exact h.of_ended (Nat.le_refl _) (holdsEnded_arrive harrive)
  · obtain ⟨held, _, hheld⟩ := hplan.getLast?_levelsHeld hhold
    rw [hpace] at hheld
    constructor
    · intro users hschedule
      simp [paceAt, hschedule] at hheld
    · intro rate cap _ hcap
      have hlt : r.runner.inFlight.length < cap := by
        simpa [Runner.isFull, hsetup, hcap] using hroom
      simp only [issuedRun_fields, issuedRunner, List.length_append, List.length_singleton]
      omega

lemma passes_limited (h : Passes setup calls place now cancelled r) : Limited setup place r := by
  induction h with
  | opened => exact limited_of_empty rfl
  | elapse _ _ _ ih => exact ih
  | wait _ ih | schedule _ _ _ _ ih => exact ih.of_ended (Nat.le_refl _) rfl
  | beginMeasured => exact limited_of_empty (by simp)
  | endRampDown => exact limited_of_empty (by simp)
  | refill h hhold _ hpace hroom hissue ih =>
    obtain ⟨_, rfl⟩ := issue_ok hissue
    exact (passes_onPlan h).limited_refill hhold hpace hroom
  | arrive h hhold _ hpace harrive ih =>
    exact ih.arrive (passes_onPlan h) (passes_setup h) hhold hpace harrive
  | reportProgress _ _ hreport ih =>
    exact ih.of_ended (Nat.le_of_eq (congrArg List.length (inFlight_reportProgress hreport)))
      (holdsEnded_reportProgress hreport)
  | record _ _ hrecord ih =>
    exact ih.of_ended (inFlight_sublist_record hrecord).length_le (holdsEnded_record hrecord)
  | complete _ hcomplete ih =>
    obtain ⟨_, _, rfl⟩ := complete_ok hcomplete
    exact ih.of_le (by simp) (by simp [holdsBegun, Place.hold?, Stage.hold?, holdsEnded])
  | _ =>
    rename_i ih
    exact ih.of_le (by simp) (by simp [holdsBegun, Place.hold?, Stage.hold?, holdsEnded, endsHold])

end Limits

/-! ### Taking the load off -/

/-- The stages of a run whose load has been taken off. -/
def Unloading : Stage → Prop
  | .burst b => b.phase ≠ .warmup
  | .rampDown _ | .finished => True
  | .rampUp _ _ _ | .sustained _ => False

/-- The places of a run whose load is taken off or has been. -/
def Place.AfterLoad : Place → Prop
  | .within stage => Unloading stage
  | .unloaded _ | .drained | .closing => True
  | _ => False

/-- The load is off in `r'`, and nothing is in flight there that was not in flight before. -/
structure Unwinds (r r' : Run) : Prop where
  stage : Unloading r'.stage
  inFlight : r'.runner.inFlight.Sublist r.runner.inFlight

section Unwinding

variable {setup : Setup} {r r' r₁ : Run} {now : Nat} {cancelled : Bool}

lemma Unwinds.trans (h : r₁.runner.inFlight.Sublist r.runner.inFlight) (h' : Unwinds r₁ r') :
    Unwinds r r' :=
  ⟨h'.stage, h'.inFlight.trans h⟩

lemma hold?_of_unloading {stage : Stage} (h : Unloading stage) : stage.hold? = none := by
  cases stage with
  | rampUp | sustained => cases h
  | _ => rfl

/-- A run whose load is off starts no measured request until it waits. -/
lemma unwinds_proceeds {place : Place} (h : Proceeds setup now cancelled place r r')
    (hplace : place.AfterLoad) : Unwinds r r' := by
  induction h with
  | issueBurst _ _ ih => exact Unwinds.trans (by simp) (ih hplace)
  | awaitBurst => exact ⟨hplace, List.Sublist.refl _⟩
  | endWarmup hphase => exact absurd hphase hplace
  | beginCooldown _ _ ih => exact Unwinds.trans (by simp) (ih (by rintro ⟨⟩))
  | endCooldown _ _ _ _ ih => exact Unwinds.trans (by simp) (ih trivial)
  | skipCooldown _ _ ih => exact ih trivial
  | beginRampDown _ _ ih => exact Unwinds.trans (by simp) (ih trivial)
  | awaitHold _ hhold =>
    rw [hold?_of_unloading hplace] at hhold
    cases hhold
  | awaitRampDown => exact ⟨trivial, List.Sublist.refl _⟩
  | endRampDown _ _ _ ih => exact Unwinds.trans (by simp) (ih trivial)
  | complete hcomplete =>
    obtain ⟨report, _, rfl⟩ := complete_ok hcomplete
    exact ⟨by simp [Unloading], by simp⟩
  | _ => exact hplace.elim

/-- A run whose load is off starts no measured request when it answers a signal. -/
lemma unwinds_step {s : Signal} (h : Unloading r.stage) (hstep : r.step s = .ok r') :
    Unwinds r r' := by
  cases answers_step hstep with
  | idle | finished => exact ⟨h, List.Sublist.refl _⟩
  | settle hstage _ hproceeds =>
    rw [hstage] at h
    exact Unwinds.trans (by simp) (unwinds_proceeds hproceeds h)
  | cut hhold | wake hhold =>
    rw [hold?_of_unloading h] at hhold
    cases hhold
  | drain _ hrecord hproceeds =>
    exact Unwinds.trans (inFlight_sublist_record hrecord) (unwinds_proceeds hproceeds h)

/-- Signals take a run from `r` to `r'`. -/
inductive Leads (r : Run) : Run → Prop where
  | refl : Leads r r
  | step {r₁ r₂ : Run} {s : Signal} (h : Leads r r₁) (hstep : r₁.step s = .ok r₂) : Leads r r₂

lemma unwinds_of_leads (h : Unloading r.stage) (hleads : Leads r r') : Unwinds r r' := by
  induction hleads with
  | refl => exact ⟨h, List.Sublist.refl _⟩
  | step _ hstep ih => exact Unwinds.trans ih.inFlight (unwinds_step ih.stage hstep)

end Unwinding

/-! ### At least so many -/

/-- As many requests are in flight as the held level asks for. -/
def Refilled (r : Run) : Prop :=
  ∀ hold level, r.stage.hold? = some hold → hold.pace = .concurrency level →
    level ≤ r.runner.inFlight.length

section Refilling

variable {setup : Setup} {calls now : Nat} {cancelled : Bool} {r r' : Run} {hold : Hold}

lemma refilled_of_unloading (h : Unloading r.stage) : Refilled r := by
  intro hold level hhold _
  rw [hold?_of_unloading h] at hhold
  cases hhold

lemma refilled_of_hold (hhold : r.stage.hold? = some hold)
    (h : ∀ level, hold.pace = .concurrency level → level ≤ r.runner.inFlight.length) :
    Refilled r := by
  intro hold' level hhold'
  obtain rfl : hold = hold' := Option.some.inj (hhold.symm.trans hhold')
  exact h level

lemma refilled_proceeds {place : Place} (h : Proceeds setup now cancelled place r r') :
    Refilled r' := by
  induction h with
  | awaitHold _ hhold _ hdue =>
    refine refilled_of_hold hhold fun level hpace => ?_
    have hfull := le_inFlight_issueDue hpace hdue
    exact hfull
  | awaitBurst | awaitRampDown =>
    intro hold level hhold
    cases hhold
  | complete hcomplete =>
    obtain ⟨report, _, rfl⟩ := complete_ok hcomplete
    exact refilled_of_unloading (by simp [Unloading])
  | _ =>
    rename_i ih
    exact ih

lemma refilled_step {s : Signal} (h : Refilled r) (hstep : r.step s = .ok r') : Refilled r' := by
  cases answers_step hstep with
  | idle | finished => exact h
  | settle _ _ hproceeds | cut _ _ hproceeds | wake _ _ _ _ hproceeds | drain _ _ hproceeds =>
    exact refilled_proceeds hproceeds

lemma refilled_of_reachable (h : Reachable setup calls now cancelled r) : Refilled r := by
  induction h with
  | start hstart => exact refilled_proceeds (proceeds_start hstart)
  | step _ _ _ hstep ih => exact refilled_step ih hstep

end Refilling

/-! ### No request after the load -/

/-- The places of a run whose load has not been taken off. -/
def Place.beforeUnloading : Place → Bool
  | .within (.burst b) => b.phase = .warmup
  | .within (.rampDown _) | .within .finished | .drained | .closing => false
  | _ => true

/-- A measured request is not started after the load has been taken off. -/
def StartedUnderLoad (runId : RunId) (before : List Note) : Note → Prop
  | .issued phase _ _ =>
    phase.isMeasured = true → Note.event (.phaseStarted runId .rampDown) ∉ before
  | _ => True

structure LoadFirst (setup : Setup) (place : Place) (r : Run) : Prop where
  unannounced : place.beforeUnloading = true →
    Note.event (.phaseStarted setup.runId .rampDown) ∉ r.trace
  started : Throughout (StartedUnderLoad setup.runId) r.trace

section Unloaded

variable {setup : Setup} {calls now : Nat} {cancelled : Bool} {place place' : Place} {r r' : Run}

lemma LoadFirst.of_append {notes : List Note} (h : LoadFirst setup place r)
    (htrace : r'.trace = r.trace ++ notes)
    (hplace : place'.beforeUnloading = true → place.beforeUnloading = true ∧
      Note.event (.phaseStarted setup.runId .rampDown) ∉ notes)
    (hnotes : ∀ phase id time, Note.issued phase id time ∉ notes) :
    LoadFirst setup place' r' := by
  constructor
  · intro hbefore
    obtain ⟨hbefore, hnot⟩ := hplace hbefore
    rw [htrace, List.mem_append]
    rintro (hmem | hmem)
    · exact h.unannounced hbefore hmem
    · exact hnot hmem
  · rw [htrace, throughout_append]
    refine ⟨h.started, ?_⟩
    intro before a after hsplit
    cases a with
    | issued phase id time =>
      have hmem : Note.issued phase id time ∈ notes := by simp [hsplit]
      exact absurd hmem (hnotes phase id time)
    | _ => trivial

lemma LoadFirst.of_trace (h : LoadFirst setup place r) (htrace : r'.trace = r.trace)
    (hplace : place'.beforeUnloading = true → place.beforeUnloading = true) :
    LoadFirst setup place' r' :=
  h.of_append (htrace.trans (List.append_nil _).symm) (fun h => ⟨hplace h, by simp⟩) (by simp)

lemma LoadFirst.of_issued {phase : Phase} {id time : Nat} (h : LoadFirst setup place r)
    (htrace : r'.trace = r.trace ++ [.issued phase id time])
    (hplace : place'.beforeUnloading = place.beforeUnloading)
    (hphase : phase.isMeasured = true → place.beforeUnloading = true) :
    LoadFirst setup place' r' := by
  constructor
  · intro hbefore
    rw [htrace]
    simpa using h.unannounced (hplace ▸ hbefore)
  · rw [htrace, throughout_append]
    refine ⟨h.started, ?_⟩
    simp only [throughout_cons, throughout_nil, and_true, List.append_nil]
    exact fun hmeasured => h.unannounced (hphase hmeasured)

lemma beforeUnloading_of_hold {stage : Stage} {hold : Hold} (h : stage.hold? = some hold) :
    (Place.within stage).beforeUnloading = true := by
  cases stage with
  | rampUp | sustained => rfl
  | _ => cases h

lemma passes_loadFirst (h : Passes setup calls place now cancelled r) :
    LoadFirst setup place r := by
  induction h with
  | opened => exact ⟨by simp, by simp [StartedUnderLoad]⟩
  | elapse _ _ _ ih => exact ih
  | wait _ ih | schedule _ _ _ _ ih => exact ih.of_trace rfl id
  | skipWarmup _ _ ih | skipRise _ ih => exact ih.of_trace rfl fun _ => rfl
  | skipCooldown _ _ ih => exact ih.of_trace rfl nofun
  | issueBurst hpasses _ ih =>
    refine ih.of_issued (issueBurst_trace ..) rfl fun hmeasured => ?_
    obtain hphase | hphase := passes_wellFormed hpasses
    · exact decide_eq_true hphase
    · rw [hphase] at hmeasured
      cases hmeasured
  | settleBurst s _ ih => exact ih.of_trace (by simp [ending_notes_filter]) id
  | refill _ hhold _ _ _ hissue ih =>
    obtain ⟨_, rfl⟩ := issue_ok hissue
    exact ih.of_issued (issuedRun_trace ..) rfl fun _ => beforeUnloading_of_hold hhold
  | arrive _ hhold _ _ harrive ih =>
    obtain ⟨_, rfl⟩ | ⟨_, _, rfl⟩ := arrive_ok harrive
    · exact ih.of_trace (by simp) id
    · exact ih.of_issued (issuedRun_trace ..) rfl fun _ => beforeUnloading_of_hold hhold
  | reportProgress _ _ hreport ih =>
    obtain ⟨_, rfl⟩ | ⟨_, _, _, _, _, rfl⟩ := reportProgress_ok hreport
    · exact ih
    · exact ih.of_append (note_trace ..) (fun h => ⟨h, by simp⟩) (by simp)
  | record _ _ hrecord ih =>
    obtain ⟨_, notes, hnotes, rfl, _⟩ := record_ok hrecord
    exact ih.of_trace (by simp [hnotes]) id
  | beginMeasured _ _ ih => exact ih.of_trace (by simp) fun _ => rfl
  | beginStep _ _ ih => exact ih.of_trace (by simp) fun _ => rfl
  | beginSustained _ _ ih =>
    exact ih.of_append (by simp; rfl) (fun _ => ⟨rfl, by simp⟩) (by simp)
  | beginRampDown _ _ ih => exact ih.of_append (rampingDown_trace ..) nofun (by simp)
  | endRampDown _ _ _ ih => exact ih.of_append (drained_trace ..) nofun (by simp)
  | complete _ hcomplete ih =>
    obtain ⟨_, _, rfl⟩ := complete_ok hcomplete
    exact ih.of_append (completed_trace ..) nofun (by simp)
  | endWarmup _ hphase _ _ ih =>
    refine ih.of_append (by simp; rfl) (fun _ => ⟨decide_eq_true hphase, by simp⟩) (by simp)
  | beginCooldown _ _ ih | endCooldown _ _ _ _ ih =>
    exact ih.of_append (by simp; rfl) nofun (by simp)
  | beginWarmup _ _ ih | beginRise _ _ ih | endStep _ _ ih | endRise _ ih | cutRise _ ih
  | endSustained _ _ ih | cutSustained _ ih =>
    exact ih.of_append (by simp; rfl) (fun _ => ⟨rfl, by simp⟩) (by simp)

/-- A run that has announced that the load is taken off waits with the load off. -/
lemma unloading_of_announced (h : Reachable setup calls now cancelled r)
    (hannounced : Note.event (.phaseStarted setup.runId .rampDown) ∈ r.trace) :
    Unloading r.stage := by
  have hload := (passes_loadFirst (passes_of_reachable h)).unannounced
  cases hstage : r.stage with
  | burst b =>
    intro hphase
    rw [hstage] at hload
    exact hload (decide_eq_true hphase) hannounced
  | rampUp | sustained =>
    rw [hstage] at hload
    exact (hload rfl hannounced).elim
  | rampDown | finished => trivial

end Unloaded

/-- At every state that a run passes, whatever settles and whenever it is cancelled, the requests in
flight are within the limits of its mode, and no measured request has been started after the load was
taken off. The levels that count are those that have been held. Whenever the run waits, the level
that is held is filled up, and once the load has been taken off no later wait finds a request in
flight that was not in flight before. -/
theorem in_flight_bounded (setup : Setup) (calls : Nat) :
    (∀ place now cancelled r, Passes setup calls place now cancelled r →
      Limited setup place r ∧
      (∀ stage hold, place = .within stage → stage.hold? = some hold →
        ∃ level, (levelsHeld setup place r).getLast? = some level ∧
          hold.pace = paceAt setup.schedule level) ∧
      Throughout (StartedUnderLoad setup.runId) r.trace) ∧
    ∀ now cancelled r, Reachable setup calls now cancelled r →
      Passes setup calls (.within r.stage) now cancelled r ∧ Refilled r ∧
      (Note.event (.phaseStarted setup.runId .rampDown) ∈ r.trace →
        ∀ r', Leads r r' → r'.runner.inFlight.Sublist r.runner.inFlight) := by
  constructor
  · intro place now cancelled r h
    refine ⟨passes_limited h, ?_, (passes_loadFirst h).started⟩
    rintro stage hold rfl hhold
    exact (passes_onPlan h).getLast?_levelsHeld hhold
  · intro now cancelled r h
    refine ⟨passes_of_reachable h, refilled_of_reachable h, fun hannounced r' hleads => ?_⟩
    exact (unwinds_of_leads (unloading_of_announced h hannounced) hleads).inFlight

/-- A rise to four requests in two steps. -/
def risingSetup : Setup where
  spec :=
    { concurrency := some 4, duration := .ofMillis 100, rampUp := .ofMillis 100,
      rampDown := .ofMillis 10 }
  schedule := .concurrency 4
  settings := { maxRampSteps := 2 }
  host := default

/-- A thousand requests a second, of which no more than one may be in flight. -/
def cappedSetup : Setup where
  spec := { requestsPerSecond := some 1000.0, duration := .ofMillis 100, maxInFlight := some 1 }
  schedule := .rate 1000.0
  host := default

lemma ok_of_toOption {α : Type} {x : Except Fault α} {a : α} (h : x.toOption = some a) :
    x = .ok a := by
  cases x with
  | error => cases h
  | ok => rw [Option.some.inj h]

/-- The level of a hold that keeps some requests in flight. -/
def levelOf? (hold : Hold) : Option ℕ :=
  match hold.pace with
  | .concurrency level => some level
  | .rate _ => none

lemma levelOf?_eq_some {hold : Hold} {level : ℕ} (h : levelOf? hold = some level) :
    hold.pace = .concurrency level := by
  unfold levelOf? at h
  cases hpace : hold.pace with
  | concurrency level' =>
    rw [hpace] at h
    cases h
    rfl
  | rate interval =>
    rw [hpace] at h
    cases h

def opensRampDown : Note → Bool
  | .event (.phaseStarted id .rampDown) => id = RunId.nil
  | _ => false

lemma opensRampDown_eq_true {n : Note} (h : opensRampDown n = true) :
    n = .event (.phaseStarted RunId.nil .rampDown) := by
  unfold opensRampDown at h
  split at h
  · rw [of_decide_eq_true h]
  · cases h

theorem in_flight_bounded_rising :
    (∃ r r₁ r₂, Run.start risingSetup 0 false 0 = .ok r ∧
      r.step { now := 10 ^ 6, cancelled := true, settled := none } = .ok r₁ ∧
      r₁.step { now := 2 * 10 ^ 6, cancelled := true, settled := some ⟨0, .returned .success⟩ } =
        .ok r₂ ∧
      r.runner.inFlight.length = 2 ∧ r₂.runner.inFlight.length = 1 ∧
      r₂.runner.inFlight.Sublist r₁.runner.inFlight) ∧
    ∃ r r₁, Run.start cappedSetup 0 false 0 = .ok r ∧
      r.step { now := 5 * 10 ^ 6, cancelled := false, settled := none } = .ok r₁ ∧
      r₁.runner.skipped = 5 ∧ r₁.runner.inFlight.length ≤ 1 := by
  constructor
  · have hfigures : (do
        let r ← Run.start risingSetup 0 false 0
        let r₁ ← r.step { now := 10 ^ 6, cancelled := true, settled := none }
        let r₂ ← r₁.step
          { now := 2 * 10 ^ 6, cancelled := true, settled := some ⟨0, .returned .success⟩ }
        return (largestLevel (levelsHeld risingSetup (.within r.stage) r),
          r.stage.hold?.bind levelOf?, r₁.trace.any opensRampDown,
          r₂.runner.inFlight.length)).toOption = some (2, some 2, true, 1) := by decide +kernel
    obtain ⟨r, hstart, hfigures⟩ := bind_eq_ok.1 (ok_of_toOption hfigures)
    obtain ⟨r₁, hcancel, hfigures⟩ := bind_eq_ok.1 hfigures
    obtain ⟨r₂, hsettle, hfigures⟩ := bind_eq_ok.1 hfigures
    simp only [pure, Except.pure, Except.ok.injEq, Prod.mk.injEq, Option.bind_eq_some_iff,
      List.any_eq_true] at hfigures
    obtain ⟨hlargest, ⟨hold, hhold, hpace⟩, ⟨n, hn, hannounced⟩, hlength⟩ := hfigures
    have hreach : Reachable risingSetup 0 0 false r := .start hstart
    have hreach₁ : Reachable risingSetup 0 (10 ^ 6) true r₁ :=
      hreach.step (Nat.zero_le _) (by rintro ⟨⟩) hcancel
    refine ⟨r, r₁, r₂, hstart, hcancel, hsettle, ?_, hlength, ?_⟩
    · obtain ⟨hpasses, hrefilled, -⟩ := (in_flight_bounded risingSetup 0).2 _ _ r hreach
      obtain ⟨hlimited, -, -⟩ := (in_flight_bounded risingSetup 0).1 _ _ _ r hpasses
      have hle := hlimited.levels 4 rfl
      have hge := hrefilled hold 2 hhold (levelOf?_eq_some hpace)
      omega
    · obtain ⟨-, -, hunwinds⟩ := (in_flight_bounded risingSetup 0).2 _ _ r₁ hreach₁
      rw [opensRampDown_eq_true hannounced] at hn
      exact hunwinds hn r₂ (.step .refl hsettle)
  · have hfigures : (do
        let r ← Run.start cappedSetup 0 false 0
        let r₁ ← r.step { now := 5 * 10 ^ 6, cancelled := false, settled := none }
        return r₁.runner.skipped).toOption = some 5 := by decide +kernel
    obtain ⟨r, hstart, hfigures⟩ := bind_eq_ok.1 (ok_of_toOption hfigures)
    obtain ⟨r₁, hstep, hfigures⟩ := bind_eq_ok.1 hfigures
    have hreach : Reachable cappedSetup 0 (5 * 10 ^ 6) false r₁ :=
      Reachable.step (.start hstart) (Nat.zero_le _) id hstep
    obtain ⟨hpasses, -, -⟩ := (in_flight_bounded cappedSetup 0).2 _ _ r₁ hreach
    obtain ⟨hlimited, -, -⟩ := (in_flight_bounded cappedSetup 0).1 _ _ _ r₁ hpasses
    exact ⟨r, r₁, hstart, hstep, Except.ok.inj hfigures, hlimited.cap _ 1 rfl rfl⟩

end LoadTest.Proofs
