import LoadTest.Json.Record
import LoadTest.Statistics

/-!
# Resource samples

Snapshots of the processor, memory and load figures of a process. Samples of several workers add
up, and a worker that sees the whole process records its share of each sample.
-/

namespace LoadTest

/-- The load average over one, five and fifteen minutes. -/
structure LoadAverage where
  one : Float
  five : Float
  fifteen : Float
  deriving Inhabited

structure ResourceSample where
  timestamp : Timestamp
  cpuPercent : Float
  memoryBytes : UInt64
  loadAverage : LoadAverage
  deriving Inhabited

/-- The sum of two byte counts, at most the largest 64-bit value. -/
def addBytes (a b : UInt64) : UInt64 := UInt64.ofNat (saturatedWord (a.toNat + b.toNat))

namespace LoadAverage

def zipWith (f : Float → Float → Float) (a b : LoadAverage) : LoadAverage :=
  { one := f a.one b.one, five := f a.five b.five, fifteen := f a.fifteen b.fifteen }

def toJson (l : LoadAverage) : Json :=
  .obj [("one", .ofFloat l.one), ("five", .ofFloat l.five), ("fifteen", .ofFloat l.fifteen)]

def ofJson? (j : Json) : Option LoadAverage := do
  let [one, five, fifteen] ← Json.slots? ["one", "five", "fifteen"] j | none
  return {
    one := ← one.required Json.float?
    five := ← five.required Json.float?
    fifteen := ← fifteen.required Json.float? }

end LoadAverage

namespace ResourceSample

/-- The sum of two samples, at the earlier of their times. -/
def combine (a b : ResourceSample) : ResourceSample where
  timestamp := a.timestamp.earlier b.timestamp
  cpuPercent := a.cpuPercent + b.cpuPercent
  memoryBytes := addBytes a.memoryBytes b.memoryBytes
  loadAverage := LoadAverage.zipWith (· + ·) a.loadAverage b.loadAverage

/-- One of `parts` equal shares of a sample; bytes are rounded down. -/
def share (s : ResourceSample) (parts : Nat) : ResourceSample :=
  let parts := max parts 1
  let divisor := Float.ofNat parts
  { s with
    cpuPercent := s.cpuPercent / divisor
    memoryBytes := UInt64.ofNat (s.memoryBytes.toNat / parts)
    loadAverage := LoadAverage.zipWith (· / ·) s.loadAverage ⟨divisor, divisor, divisor⟩ }

def toJson (s : ResourceSample) : Json :=
  .obj
    [("timestamp", .ofTimestamp s.timestamp),
     ("cpu_percent", .ofFloat s.cpuPercent),
     ("memory_bytes", .ofUInt64 s.memoryBytes),
     ("load_average", s.loadAverage.toJson)]

def ofJson? (j : Json) : Option ResourceSample := do
  let [timestamp, cpu, memory, load] ←
    Json.slots? ["timestamp", "cpu_percent", "memory_bytes", "load_average"] j | none
  return {
    timestamp := ← timestamp.required Json.timestamp?
    cpuPercent := ← cpu.required Json.float?
    memoryBytes := ← memory.required Json.uint64?
    loadAverage := ← load.required LoadAverage.ofJson? }

/-- The samples that several series have at one position. -/
def combineAll? : List ResourceSample → Option ResourceSample
  | [] => none
  | s :: rest => some (rest.foldl combine s)

/-- The position-wise sum of several series, as long as the shortest of them. -/
def sumSeries (series : List (List ResourceSample)) : List ResourceSample :=
  let length := ((series.map List.length).min?).getD 0
  (List.range length).filterMap fun i => combineAll? (series.filterMap fun s => s[i]?)

end ResourceSample

/-- Memory at the start, at its peak and at the end of a run. -/
structure MemoryStats where
  startBytes : UInt64 := 0
  peakBytes : UInt64 := 0
  endBytes : UInt64 := 0
  deriving DecidableEq, Inhabited

namespace MemoryStats

def ofSamples (samples : List ResourceSample) : MemoryStats :=
  let memory := samples.map ResourceSample.memoryBytes
  { startBytes := memory.headD 0
    peakBytes := memory.foldl (fun peak m => if peak ≤ m then m else peak) 0
    endBytes := memory.getLastD 0 }

def toJson (m : MemoryStats) : Json :=
  .obj
    [("start_bytes", .ofUInt64 m.startBytes),
     ("peak_bytes", .ofUInt64 m.peakBytes),
     ("end_bytes", .ofUInt64 m.endBytes)]

def ofJson? (j : Json) : Option MemoryStats := do
  let [start, peak, finish] ← Json.slots? ["start_bytes", "peak_bytes", "end_bytes"] j | none
  return {
    startBytes := ← start.required Json.uint64?
    peakBytes := ← peak.required Json.uint64?
    endBytes := ← finish.required Json.uint64? }

end MemoryStats

/-- Growth of the mean memory between the two ends of a series. -/
structure LeakReport (α : Type) where
  initialMeanBytes : α
  finalMeanBytes : α
  growthBytes : α
  suspected : Bool
  deriving Inhabited

namespace LeakReport

/-- Compares the mean of the first and of the last `window` figures; a leak is suspected if the mean
grew by more than `threshold` bytes. A short series is compared with itself. -/
def detect? {α : Type} [Scalar α] (memory : List UInt64) (window : Nat) (threshold : UInt64) :
    Option (LeakReport α) :=
  if memory.isEmpty then none
  else
    let window := min (max window 1) memory.length
    let figures : List α := memory.map fun m => Scalar.ofCount m.toNat
    let initialMeanBytes := mean (figures.take window)
    let finalMeanBytes := mean (figures.drop (figures.length - window))
    let growthBytes := finalMeanBytes - initialMeanBytes
    some { initialMeanBytes, finalMeanBytes, growthBytes,
           suspected := Scalar.ofCount threshold.toNat < growthBytes }

/-- The leak report of a series of samples. -/
def ofSamples? (samples : List ResourceSample) (window : Nat) (threshold : UInt64) :
    Option (LeakReport Float) :=
  detect? (samples.map ResourceSample.memoryBytes) window threshold

def toJson (r : LeakReport Float) : Json :=
  .obj
    [("initial_mean_bytes", .ofFloat r.initialMeanBytes),
     ("final_mean_bytes", .ofFloat r.finalMeanBytes),
     ("growth_bytes", .ofFloat r.growthBytes),
     ("suspected", .bool r.suspected)]

def ofJson? (j : Json) : Option (LeakReport Float) := do
  let [initial, final, growth, suspected] ←
    Json.slots? ["initial_mean_bytes", "final_mean_bytes", "growth_bytes", "suspected"] j | none
  return {
    initialMeanBytes := ← initial.required Json.float?
    finalMeanBytes := ← final.required Json.float?
    growthBytes := ← growth.required Json.float?
    suspected := ← suspected.required Json.bool? }

end LeakReport

/-- Bytes in units of `2 ^ 20`. -/
def bytesToMebibytes {α : Type} [Scalar α] (bytes : α) : α :=
  bytes / (Scalar.ofCount 1024 * Scalar.ofCount 1024)

end LoadTest
