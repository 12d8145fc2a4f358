/-!
# Faults

Counts, durations and clock readings have fixed ranges. An operation whose result would leave its
range stops with a `Fault` instead of returning a wrong figure.
-/

namespace LoadTest

inductive Fault where
  /-- A count, an identifier or a duration outgrew its range. -/
  | overflow
  | divisionByZero
  /-- A place that a list does not have. -/
  | outOfBounds
  /-- A point in time before the first or after the last representable one. -/
  | timeOutOfRange
  /-- A list longer than the memory that can be addressed. -/
  | tooLarge
  /-- A run that would go on for ever without its clock advancing. -/
  | stalled
  /-- A worker thread whose name is not allowed. -/
  | badThreadName
  deriving DecidableEq, Repr

/-- A chain of computations gives a result if each link does. -/
theorem bind_eq_ok {ε α β : Type} {x : Except ε α} {f : α → Except ε β} {b : β} :
    x >>= f = .ok b ↔ ∃ a, x = .ok a ∧ f a = .ok b := by
  cases x <;> simp [bind, Except.bind]

/-- One more than the largest 64-bit count. -/
def wordLimit : Nat := 18446744073709551616

/-- A count that has to stay below `wordLimit`. -/
def checkedWord (n : Nat) : Except Fault Nat :=
  if n < wordLimit then .ok n else .error .overflow

/-- A count that stops at the largest 64-bit value. -/
def saturatedWord (n : Nat) : Nat := min n (wordLimit - 1)

end LoadTest
