import LoadTest.Fault
import LoadTest.Scalar

/-!
# Durations

A duration is a number of nanoseconds below `2 ^ 64` seconds.
-/

namespace LoadTest

structure Duration where
  nanos : Nat
  nanos_lt : nanos < wordLimit * 1000000000 := by decide
  deriving DecidableEq

namespace Duration

def zero : Duration := ⟨0, by decide⟩

instance : Inhabited Duration := ⟨zero⟩
instance : LT Duration := ⟨fun a b => a.nanos < b.nanos⟩
instance : LE Duration := ⟨fun a b => a.nanos ≤ b.nanos⟩
instance (a b : Duration) : Decidable (a < b) := inferInstanceAs (Decidable (a.nanos < b.nanos))
instance (a b : Duration) : Decidable (a ≤ b) := inferInstanceAs (Decidable (a.nanos ≤ b.nanos))
instance : Min Duration := ⟨fun a b => if a ≤ b then a else b⟩
instance : Max Duration := ⟨fun a b => if a ≤ b then b else a⟩

def ofNanos? (n : Nat) : Option Duration :=
  if h : n < wordLimit * 1000000000 then some ⟨n, h⟩ else none

def ofMillis (ms : UInt64) : Duration :=
  ⟨ms.toNat * 1000000, by have := ms.toNat_lt; simp only [wordLimit]; omega⟩

/-- Whole seconds and the nanoseconds after them, with any carry into the seconds. -/
def ofParts? (seconds nanos : Nat) : Option Duration := ofNanos? (seconds * 1000000000 + nanos)

def seconds (d : Duration) : Nat := d.nanos / 1000000000

def subNanos (d : Duration) : Nat := d.nanos % 1000000000

/-- Whole milliseconds, rounded down. -/
def millis (d : Duration) : Nat := d.nanos / 1000000

/-- The milliseconds as they are written, in 64 bits. -/
def wireMillis (d : Duration) : Nat := d.millis % wordLimit

def isZero (d : Duration) : Bool := d.nanos = 0

/-- A duration in fractional seconds. -/
def toSeconds {α : Type} [Scalar α] (d : Duration) : α :=
  Scalar.ofCount d.seconds + Scalar.ofCount d.subNanos / Scalar.ofCount 1000000000

/-- A duration in fractional milliseconds. -/
def toMillis {α : Type} [Scalar α] (d : Duration) : α := d.toSeconds * Scalar.ofCount 1000

/-- An equal part of a duration, rounded down to a nanosecond. -/
def part (d : Duration) (parts : Nat) : Duration :=
  ⟨d.nanos / parts, Nat.lt_of_le_of_lt (Nat.div_le_self ..) d.nanos_lt⟩

/-- A multiple of a duration. -/
def times (d : Duration) (factor : Nat) : Except Fault Duration :=
  match ofNanos? (d.nanos * factor) with
  | some product => .ok product
  | none => .error .overflow

end Duration

end LoadTest
