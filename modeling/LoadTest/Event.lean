import LoadTest.Schedule

/-!
# Phases and events

A run passes through its phases in order and publishes events as it does.
-/

namespace LoadTest

inductive Phase where
  | warmup
  | rampUp
  | sustained
  | rampDown
  | cooldown
  deriving DecidableEq, Repr, Inhabited

namespace Phase

def all : List Phase := [.warmup, .rampUp, .sustained, .rampDown, .cooldown]

def name : Phase → String
  | .warmup => "warmup"
  | .rampUp => "ramp_up"
  | .sustained => "sustained"
  | .rampDown => "ramp_down"
  | .cooldown => "cooldown"

/-- The phase as it is shown to people. -/
def title : Phase → String
  | .warmup => "warmup"
  | .rampUp => "ramp-up"
  | .sustained => "sustained"
  | .rampDown => "ramp-down"
  | .cooldown => "cooldown"

/-- Whether the outcomes of a phase are part of the report. -/
def isMeasured : Phase → Bool
  | .rampUp | .sustained | .rampDown => true
  | .warmup | .cooldown => false

/-- The position of a phase in a run. -/
def position : Phase → Nat
  | .warmup => 0
  | .rampUp => 1
  | .sustained => 2
  | .rampDown => 3
  | .cooldown => 4

def cases : List (String × Phase) := all.map fun p => (p.name, p)

end Phase

inductive Event where
  | runStarted (run : RunId) (name : String) (schedule : Schedule)
  | phaseStarted (run : RunId) (phase : Phase)
  | progress (run : RunId) (phase : Phase) (completed inFlight : Nat) (elapsed : Duration)
  /-- The number of outcomes recorded so far; zero for phases that are not measured. -/
  | phaseCompleted (run : RunId) (phase : Phase) (completed : Nat)
  | runCompleted (run : RunId) (totalRequests : Nat) (errorRate : Float) (cancelled : Bool)
  deriving Inhabited

namespace Event

def runId : Event → RunId
  | .runStarted run .. | .phaseStarted run .. | .progress run .. | .phaseCompleted run ..
  | .runCompleted run .. => run

def toJson : Event → Json
  | .runStarted run name schedule =>
    .obj [("event", .str "run_started"), ("run_id", .ofRunId run), ("name", .str name),
      ("schedule", schedule.toJson)]
  | .phaseStarted run phase =>
    .obj [("event", .str "phase_started"), ("run_id", .ofRunId run), ("phase", .str phase.name)]
  | .progress run phase completed inFlight elapsed =>
    .obj [("event", .str "progress"), ("run_id", .ofRunId run), ("phase", .str phase.name),
      ("completed", .nat completed), ("in_flight", .nat inFlight),
      ("elapsed", .ofDuration elapsed)]
  | .phaseCompleted run phase completed =>
    .obj [("event", .str "phase_completed"), ("run_id", .ofRunId run), ("phase", .str phase.name),
      ("completed", .nat completed)]
  | .runCompleted run totalRequests errorRate cancelled =>
    .obj [("event", .str "run_completed"), ("run_id", .ofRunId run),
      ("total_requests", .nat totalRequests), ("error_rate", .ofFloat errorRate),
      ("cancelled", .bool cancelled)]

def ofJson? (j : Json) : Option Event := do
  if !j.isHeld 0 then none
  let (chosen, fields) ← j.tagged? "event"
  match ← chosen.text? with
  | "run_started" =>
    let [run, name, schedule] ← Json.slots? ["run_id", "name", "schedule"] fields | none
    return .runStarted (← run.required Json.runId?) (← name.required Json.text?)
      (← schedule.required (Schedule.ofJson? true 1))
  | "phase_started" =>
    let [run, phase] ← Json.slots? ["run_id", "phase"] fields | none
    return .phaseStarted (← run.required Json.runId?)
      (← phase.required (Json.choice? Phase.cases))
  | "progress" =>
    let [run, phase, completed, inFlight, elapsed] ←
      Json.slots? ["run_id", "phase", "completed", "in_flight", "elapsed"] fields | none
    return .progress (← run.required Json.runId?) (← phase.required (Json.choice? Phase.cases))
      (← completed.required Json.word?) (← inFlight.required Json.word?)
      (← elapsed.required Json.duration?)
  | "phase_completed" =>
    let [run, phase, completed] ← Json.slots? ["run_id", "phase", "completed"] fields | none
    return .phaseCompleted (← run.required Json.runId?)
      (← phase.required (Json.choice? Phase.cases)) (← completed.required Json.word?)
  | "run_completed" =>
    let [run, total, errorRate, cancelled] ←
      Json.slots? ["run_id", "total_requests", "error_rate", "cancelled"] fields | none
    return .runCompleted (← run.required Json.runId?) (← total.required Json.word?)
      (← errorRate.required Json.float?) (← cancelled.required Json.bool?)
  | _ => none

end Event

end LoadTest
