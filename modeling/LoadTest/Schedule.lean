import LoadTest.Json.Record

/-!
# Schedules

A load test either keeps a number of requests in flight, or starts them at a fixed rate.
-/

namespace LoadTest

inductive Schedule where
  /-- Keep this many requests in flight. -/
  | concurrency (users : Nat)
  /-- Start this many requests per second, whatever becomes of them. -/
  | rate (perSecond : Float)
  deriving Inhabited

namespace Schedule

/-- The load to reach: requests in flight, or requests per second. -/
def targetLevel : Schedule → Float
  | .concurrency users => Float.ofNat users
  | .rate perSecond => perSecond

def toJson : Schedule → Json
  | .concurrency users => .obj [("mode", .str "concurrency"), ("concurrency", .nat users)]
  | .rate perSecond =>
    .obj [("mode", .str "rate"), ("requests_per_second", .ofFloat perSecond)]

/-- The two modes, by name. -/
def modes : List (String × Bool) := [("concurrency", true), ("rate", false)]

/-- The mode of a tag. Inside another tagged choice the position of a mode may stand for it. -/
def isConcurrency? (nested : Bool) : Json → Option Bool
  | .str name => modes.lookup name
  | .int 0 => if nested then some true else none
  | .int 1 => if nested then some false else none
  | _ => none

def ofJson? (nested : Bool) (enclosing : Nat) (j : Json) : Option Schedule := do
  if !j.isHeld enclosing then none
  let (mode, fields) ← j.tagged? "mode"
  if ← isConcurrency? nested mode then
    let [users] ← Json.slots? ["concurrency"] fields | none
    return .concurrency (← users.required Json.word?)
  else
    let [perSecond] ← Json.slots? ["requests_per_second"] fields | none
    return .rate (← perSecond.required Json.float?)

end Schedule

end LoadTest
