/-!
# Floats as exact fractions

A finite float is `mantissa * 2 ^ exponent`, up to its sign. Rounding a quotient of naturals to the
nearest whole number, a half to the even neighbour, gives the exact operations their results.
-/

namespace LoadTest

/-- The number `mantissa * 2 ^ exponent`, negated if `negative`. -/
structure BinaryFraction where
  negative : Bool
  mantissa : Nat
  exponent : Int
  deriving DecidableEq, Repr

namespace BinaryFraction

/-- The least exponent of a float's mantissa. -/
def leastExponent : Int := -1074

/-- The mantissa of a float that is not subnormal has 53 bits. -/
def hiddenBit : Nat := 4503599627370496

/-- The exact value of a finite float. -/
def ofFloat? (x : Float) : Option BinaryFraction :=
  let bits := x.toBits.toNat
  let negative := decide (9223372036854775808 ≤ bits)
  let field := bits / hiddenBit % 2048
  let fraction := bits % hiddenBit
  if field = 2047 then none
  else if field = 0 then some { negative, mantissa := fraction, exponent := leastExponent }
  else some
    { negative, mantissa := fraction + hiddenBit, exponent := leastExponent + (field - 1 : Nat) }

/-- `mantissa * 2 ^ exponent * factor` as a quotient of naturals. -/
def scaled (x : BinaryFraction) (factor : Nat) : Nat × Nat :=
  ((x.mantissa <<< x.exponent.toNat) * factor, 1 <<< (-x.exponent).toNat)

end BinaryFraction

/-- The natural number nearest to `numerator / denominator`; a half goes to the even one. -/
def nearestQuotient (numerator denominator : Nat) : Nat :=
  let quotient := numerator / denominator
  let twice := 2 * (numerator % denominator)
  if twice < denominator then quotient
  else if denominator < twice then quotient + 1
  else quotient + quotient % 2

/-- The natural number nearest to `factor` times a fraction, whatever its sign. -/
def BinaryFraction.nearestMultiple (x : BinaryFraction) (factor : Nat) : Nat :=
  nearestQuotient (x.scaled factor).1 (x.scaled factor).2

end LoadTest
