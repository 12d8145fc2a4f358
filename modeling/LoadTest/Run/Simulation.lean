import LoadTest.Run.Basic

/-!
# Runs on a virtual clock

Computing takes no time, and the clock jumps to the next timer when nothing is left to do. Timers
fire at whole milliseconds, never early. Of things that fall on one millisecond a cancellation comes
first, then requests settle in the order in which they were started, then timers fire.
-/

namespace LoadTest

/-- The first whole millisecond that is not before a clock reading. -/
def wholeMillis (t : Nat) : Nat := (t + 999999) / 1000000 * 1000000

/-- What a simulated run is exposed to. -/
structure World where
  target : Nat → Call
  /-- When the run is cancelled. -/
  cancelAt : Option Nat := none

namespace World

def isCancelled (w : World) (now : Nat) : Bool := w.cancelAt.any fun t => wholeMillis t ≤ now

/-- When and how a request settles. -/
def settlement (w : World) (timeout : Duration) (p : Pending) : Nat × Ending :=
  let call := w.target p.call
  let returns := wholeMillis (p.startedAt + call.delay.nanos)
  let expires := wholeMillis (p.startedAt + timeout.nanos)
  if returns ≤ expires then (returns, .returned call.finish) else (expires, .timedOut)

/-- The request that settles first, and when. -/
def firstSettled? (w : World) (timeout : Duration) (pending : List Pending) :
    Option (Nat × Settlement) :=
  pending.foldl (fun first p =>
    let (time, ending) := w.settlement timeout p
    match first with
    | some (earliest, _) =>
      if time < earliest then some (time, { id := p.id, ending }) else first
    | none => some (time, { id := p.id, ending })) none

/-- The earlier of two times, either of which may be missing. -/
def sooner? : Option Nat → Option Nat → Option Nat
  | some a, some b => some (min a b)
  | some a, none => some a
  | none, b => b

/-- The next signal of a run that waits since `now`. -/
def nextSignal? (w : World) (r : Run) (now : Nat) : Option Signal :=
  let settled := w.firstSettled? r.setup.spec.requestTimeout r.pending
  let timer := r.timer?.map wholeMillis
  let cancel := if r.heedsCancellation then w.cancelAt.map wholeMillis else none
  (sooner? (settled.map Prod.fst) (sooner? timer cancel)).map fun time =>
    let time := max now time
    let cancelled := w.isCancelled time
    { now := time
      cancelled
      settled :=
        if cancelled && r.heedsCancellation then none
        else match settled with
          | some (t, s) => if t ≤ time then some s else none
          | none => none }

/-- Wakes a run until it has finished; the run, and the time by then. -/
def play (w : World) : Nat → Run → Nat → Except Fault (Run × Nat)
  | 0, _, _ => .error .stalled
  | fuel + 1, r, now =>
    if r.isFinished then .ok (r, now)
    else
      match w.nextSignal? r now with
      | none => .error .stalled
      | some signal => do w.play fuel (← r.step signal) signal.now

end World

end LoadTest
