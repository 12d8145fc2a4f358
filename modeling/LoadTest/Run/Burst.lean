import LoadTest.Run.Runner

/-!
# Bursts

Before and after the measured part a run may start a number of requests that are not measured, a
few at a time, and wait for all of them.
-/

namespace LoadTest

structure Burst where
  phase : Phase
  /-- How many requests to start in all. -/
  count : Nat
  /-- How many of them may be pending. -/
  width : Nat
  issued : Nat := 0
  pending : List Pending := []

namespace Burst

/-- Starts a request at `now`, as call number `call` of the target. -/
def issue (b : Burst) (call now : Nat) : Burst :=
  { b with
    issued := b.issued + 1
    pending := b.pending ++ [{ id := b.issued, call, startedAt := now }] }

/-- Whether a request is to be started: some are left, there is room, and the run goes on. -/
def wants (b : Burst) (cancelled : Bool) : Prop :=
  b.issued < b.count ∧ b.pending.length < b.width ∧ cancelled = false

instance (b : Burst) (cancelled : Bool) : Decidable (b.wants cancelled) :=
  inferInstanceAs (Decidable (_ ∧ _))

/-- Drops a request that has settled. -/
def settle (b : Burst) (id : Nat) : Burst :=
  { b with pending := b.pending.filter fun p => p.id ≠ id }

end Burst

end LoadTest
