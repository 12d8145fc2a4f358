import LoadTest.Request

/-!
# Throughput

Completions counted in windows of equal width from the earliest start. A window without completions
between the first and the last one counts as zero. There is no limit on the number of windows.
-/

namespace LoadTest

structure ThroughputStats where
  requestsPerSecond : Float := 0.0
  windowMillis : Nat := 0
  windows : Nat := 0
  minPerWindow : Nat := 0
  maxPerWindow : Nat := 0
  avgPerWindow : Float := 0.0
  deriving Inhabited

namespace ThroughputStats

/-- The width of a window in whole milliseconds, at least one, as a signed 64-bit number. -/
def signedWidth (window : Duration) : Int := Int.bmod (max window.millis 1) wordLimit

/-- The number of the window in which a request ended. -/
def windowOf (origin : Timestamp) (width : Int) (o : Outcome) : Except Fault Nat :=
  let offset := max 0 ((o.endedAt.nanosSince origin).tdiv 1000000)
  if width = 0 then .error .divisionByZero
  else
    let index := offset.tdiv width
    if index < 0 then .error .tooLarge else .ok index.toNat

/-- Counts one more completion in a window. If there are too few windows, empty ones are added up to
that one. -/
def recordCompletion (buckets : Array Nat) (index : Nat) : Except Fault (Array Nat) :=
  let grown := buckets ++ Array.replicate (index + 1 - buckets.size) 0
  match grown[index]? with
  | some count => .ok (grown.setIfInBounds index (count + 1))
  | none => .error .outOfBounds

/-- Summarises completions by window; `requestsPerSecond` is left at zero. -/
def ofOutcomes (outcomes : List Outcome) (window : Duration) : Except Fault ThroughputStats :=
  let width := signedWidth window
  let windowMillis := (width % wordLimit).toNat
  match Timestamp.earliest? (outcomes.map Outcome.startedAt) with
  | none => .ok { windowMillis }
  | some origin => do
    let indices ← outcomes.mapM (windowOf origin width)
    let buckets ← indices.foldlM recordCompletion #[]
    return {
      windowMillis
      windows := buckets.size
      minPerWindow := buckets.toList.min?.getD 0
      maxPerWindow := buckets.toList.max?.getD 0
      avgPerWindow := Float.ofNat outcomes.length / Float.ofNat buckets.size }

def toJson (s : ThroughputStats) : Json :=
  .obj
    [("requests_per_second", .ofFloat s.requestsPerSecond),
     ("window_ms", .nat s.windowMillis),
     ("windows", .nat s.windows),
     ("min_per_window", .nat s.minPerWindow),
     ("max_per_window", .nat s.maxPerWindow),
     ("avg_per_window", .ofFloat s.avgPerWindow)]

def fields : List String :=
  ["requests_per_second", "window_ms", "windows", "min_per_window", "max_per_window",
   "avg_per_window"]

def ofJson? (j : Json) : Option ThroughputStats := do
  let [perSecond, width, windows, least, greatest, average] ← Json.slots? fields j | none
  return {
    requestsPerSecond := ← perSecond.required Json.float?
    windowMillis := ← width.required Json.word?
    windows := ← windows.required Json.word?
    minPerWindow := ← least.required Json.word?
    maxPerWindow := ← greatest.required Json.word?
    avgPerWindow := ← average.required Json.float? }

end ThroughputStats

end LoadTest
