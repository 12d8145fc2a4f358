import LoadTest.Config.Basic
import LoadTest.Distribution.Partition
import LoadTest.Run.Simulation

/-!
# Generators

A generator executes specifications one after the other against a scripted target. Its clock and
its count of calls go on from one run to the next, and once cancelled it stays so. What its runs
publish goes through one channel, which any number of readers may subscribe to.
-/

namespace LoadTest

/-- A run is given up after this many signals. -/
def mostSignals : Nat := 100000000

structure Generator where
  settings : GeneratorSettings := {}
  sampler : SamplerSettings := {}
  script : Script
  firstId : Nat := 0
  resourceShare : Nat := 1
  host : Host := default
  /-- The time on the virtual clock. -/
  now : Nat := 0
  calls : Nat := 0
  /-- When the generator is or was cancelled. -/
  cancelAt : Option Nat := none
  /-- The events sent through the channel so far. -/
  published : List Event := []

namespace Generator

/-- The number of events that a reader may lag behind. -/
def eventCapacity (settings : GeneratorSettings) : Nat :=
  (max settings.eventBuffer 1).nextPowerOfTwo

/-- A generator with the settings of a configuration; its event buffer has to fit in memory. -/
def ofConfig (c : Config) (script : Script) : Except Fault Generator :=
  if longestList < c.generator.eventBuffer then .error .tooLarge
  else .ok { settings := c.generator, sampler := c.sampler, script }

/-- Cancels the generator some time from now. -/
def cancelAfter (g : Generator) (d : Duration) : Generator :=
  { g with cancelAt := World.sooner? g.cancelAt (some (g.now + d.nanos)) }

def cancel (g : Generator) : Generator := g.cancelAfter .zero

def world (g : Generator) : World := { target := g.script.call, cancelAt := g.cancelAt }

def setup (g : Generator) (spec : Spec) (schedule : Schedule) : Setup where
  spec := spec
  schedule := schedule
  settings := g.settings
  sampler := g.sampler
  firstId := g.firstId
  resourceShare := g.resourceShare
  host := g.host

/-- A run of a valid specification from its start to its end. -/
def play (g : Generator) (spec : Spec) (schedule : Schedule) : Except Fault (Run × Generator) := do
  let start ← Run.start (g.setup spec schedule) g.calls (g.world.isCancelled g.now) g.now
  let (run, now) ← g.world.play mostSignals start g.now
  return (run, { g with now, calls := run.calls, published := g.published ++ run.events })

/-- Executes a specification; an invalid one starts nothing. -/
def execute (g : Generator) (spec : Spec) : Except Fault (Except Failure Run × Generator) :=
  match spec.validate with
  | .error flaw => .ok (.error flaw.toFailure, g)
  | .ok schedule => do
    let (run, g) ← g.play spec schedule
    return (.ok run, g)

/-! ### Readers of the channel -/

/-- How far a reader has come that subscribes now: it receives what is published from here on. -/
def subscribe (g : Generator) : Nat := g.published.length

/-- What a reader receives that has come as far as `position`. The channel keeps only as many events
as it has room for: the number of those that were lost, and the rest. -/
def receive (g : Generator) (position : Nat) : Nat × List Event :=
  let unread := g.published.drop position
  let lost := unread.length - eventCapacity g.settings
  (lost, unread.drop lost)

end Generator

end LoadTest
