/-!
# Whole numbers near a float

Below `2 ^ 53` a float may have a fraction; from there on every float is whole.
-/

namespace LoadTest

/-- From here on every float is whole. -/
def wholeFrom : Float := 9007199254740992.0

/-- The least whole number that is not below a float of no negative value. -/
def ceiling (x : Float) : Float :=
  if x < wholeFrom then
    let floor := x.toUInt64
    if floor.toFloat < x then (floor + 1).toFloat else floor.toFloat
  else x

/-- The ceiling of a float as a count: zero for negative floats and for what is no number, at most
`2 ^ 64 - 1`. -/
def ceilingCount (x : Float) : Nat := (ceiling x).toUInt64.toNat

/-- The nearest count, a half going up: zero for negative floats and for what is no number, at most
`2 ^ 64 - 1`. -/
def nearestCount (x : Float) : Nat :=
  let floor := x.toUInt64.toNat
  if x < wholeFrom && 0.5 ≤ x - x.toUInt64.toFloat then floor + 1 else floor

end LoadTest
