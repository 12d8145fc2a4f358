/-!
# Arithmetic of measured figures

`Scalar` collects what the statistics of this library ask of a number type. The definitions run on
`Float`; stated over any `Scalar`, they can also be read over exact numbers.
-/

namespace LoadTest

/-- The arithmetic that measured figures are computed in. -/
class Scalar (α : Type) extends Add α, Sub α, Mul α, Div α, Neg α, LT α, LE α where
  /-- The figure of a count. -/
  ofCount : Nat → α
  decLt : DecidableRel (fun x y : α => x < y)
  decLe : DecidableRel (fun x y : α => x ≤ y)
  /-- The whole part of a figure, zero where there is none, at most `2 ^ 64 - 1`. -/
  whole : α → Nat
  sqrt : α → α
  /-- A total order that refines `≤` where figures are comparable. -/
  sortsBefore : α → α → Bool

namespace Scalar

variable {α : Type} [Scalar α]

instance : DecidableLT α := decLt
instance : DecidableLE α := decLe

def zero : α := ofCount 0

def abs (x : α) : α := if x < zero then zero - x else x + zero

/-- Neither figure is above the other. A figure that is no number equals none. -/
def same (x y : α) : Bool := x ≤ y && y ≤ x

/-- The sum from the left, started at the first summand. -/
def sum : List α → α
  | [] => zero
  | x :: rest => rest.foldl (· + ·) x

/-- The larger of two figures; the second where the first is no number. -/
def atLeast (x floor : α) : α := if floor < x then x else floor

def clamp (x low high : α) : α := if x < low then low else if high < x then high else x

/-- The bits of a float in the order in which floats sort: negative numbers first, and a negative
zero before zero. -/
def floatKey (x : Float) : UInt64 :=
  let bits := x.toBits
  if bits &&& 0x8000000000000000 = 0 then bits ||| 0x8000000000000000 else ~~~ bits

end Scalar

instance : Scalar Float where
  ofCount := Float.ofNat
  decLt := Float.decLt
  decLe := Float.decLe
  whole x := x.toUInt64.toNat
  sqrt := Float.sqrt
  sortsBefore x y := Scalar.floatKey x ≤ Scalar.floatKey y

end LoadTest
