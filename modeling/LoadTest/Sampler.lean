import LoadTest.Resource
import LoadTest.Settings

/-!
# Sampling resources

A sampler takes a sample when it starts, one at each interval after that, and a last one when it
stops. The interval is at least a millisecond; clock readings are in nanoseconds.
-/

namespace LoadTest

/-- The time between two samples, in nanoseconds. -/
def SamplerSettings.tick (s : SamplerSettings) : Nat := max s.interval.nanos 1000000

/-- The samples at each interval from `start` on, before `stop`; the first one is always taken. -/
def SamplerSettings.tickTimes (s : SamplerSettings) (start stop : Nat) : List Nat :=
  let ticks := max 1 ((stop - start + s.tick - 1) / s.tick)
  (List.range ticks).map fun k => start + k * s.tick

/-- The samples of a sampler that ran from `start` to `stop`. -/
def SamplerSettings.series (s : SamplerSettings) (probe : Nat → ResourceSample) (start stop : Nat) :
    List ResourceSample :=
  (s.tickTimes start stop).map probe ++ [probe stop]

/-- The leak report of a series. -/
def SamplerSettings.leak? (s : SamplerSettings) (samples : List ResourceSample) :
    Option (LeakReport Float) :=
  LeakReport.ofSamples? samples s.leakWindow s.leakThresholdBytes

/-- A sampler that can be started and stopped. -/
structure Sampler where
  settings : SamplerSettings := {}
  /-- When it was started, while it runs. -/
  startedAt : Option Nat := none
  deriving Inhabited

namespace Sampler

def isRunning (s : Sampler) : Bool := s.startedAt.isSome

/-- Starts sampling. A sampler that runs goes on undisturbed. -/
def start (s : Sampler) (now : Nat) : Sampler :=
  { s with startedAt := some (s.startedAt.getD now) }

/-- A sample apart from the series. -/
def snapshot (_ : Sampler) (probe : Nat → ResourceSample) (now : Nat) : ResourceSample := probe now

/-- Stops sampling and gives the series; it is empty if the sampler did not run. -/
def stop (s : Sampler) (probe : Nat → ResourceSample) (now : Nat) :
    List ResourceSample × Sampler :=
  match s.startedAt with
  | none => ([], s)
  | some start => (s.settings.series probe start now, { s with startedAt := none })

end Sampler

end LoadTest
