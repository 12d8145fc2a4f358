import LoadTest.Event
import LoadTest.Log.Line
import LoadTest.Target

/-!
# The journal of a run

A run notes, in order, the requests that it starts, how its holds of a load level end, the events
that it publishes and the lines that it logs. Clock readings are in nanoseconds.
-/

namespace LoadTest

inductive Note where
  /-- A request of some phase was started. -/
  | issued (phase : Phase) (id : Nat) (time : Nat)
  /-- A load level was held: until its deadline, or else until the run was cancelled. -/
  | held (phase : Phase) (lasted : Bool)
  | event (event : Event)
  | line (line : LogLine)
  deriving Inhabited

namespace Note

def event? : Note → Option Event
  | .event e => some e
  | _ => none

@[simp] theorem event?_issued (phase : Phase) (id time : Nat) :
    (Note.issued phase id time).event? = none := rfl

@[simp] theorem event?_held (phase : Phase) (lasted : Bool) :
    (Note.held phase lasted).event? = none := rfl

@[simp] theorem event?_event (e : Event) : (Note.event e).event? = some e := rfl

@[simp] theorem event?_line (l : LogLine) : (Note.line l).event? = none := rfl

def line? : Note → Option LogLine
  | .line l => some l
  | _ => none

def isLine : Note → Bool
  | .line _ => true
  | _ => false

@[simp] theorem isLine_issued (phase : Phase) (id time : Nat) :
    (Note.issued phase id time).isLine = false := rfl

@[simp] theorem isLine_held (phase : Phase) (lasted : Bool) :
    (Note.held phase lasted).isLine = false := rfl

@[simp] theorem isLine_event (e : Event) : (Note.event e).isLine = false := rfl

@[simp] theorem isLine_line (l : LogLine) : (Note.line l).isLine = true := rfl

/-- A line that the generator logs. -/
def log (level : LogLevel) (message : String) : Note :=
  .line { level, source := "stampede::generator", message }

/-- A line that the sampler logs. -/
def sampling (level : LogLevel) (message : String) : Note :=
  .line { level, source := "stampede::sampler", message }

end Note

/-- The lines logged when a request ends. -/
def Ending.notes : Ending → List Note
  | .returned (.panic none) => [.log .warn "Target panicked with a non-string payload"]
  | _ => []

end LoadTest
