import LoadTest.Number.BinaryFraction

/-!
# Decimal notation

A `Decimal` is what a numeral spells out. `toFloat` reads it, rounded to the nearest float, and
`shortest` writes a float with the fewest digits that read back as the same float; of two such
numerals it takes the nearer one.
-/

namespace LoadTest

/-- The number `coefficient * 10 ^ exponent`, negated if `negative`. -/
structure Decimal where
  negative : Bool
  coefficient : Nat
  exponent : Int
  deriving DecidableEq, Repr

namespace Decimal

/-- The number that a list of decimal digits spells. -/
def ofDigits (digits : List Char) : Nat :=
  digits.foldl (fun n c => n * 10 + (c.toNat - '0'.toNat)) 0

/-- The numeral with the given digits before and after its point. -/
def ofParts (negative : Bool) (whole fraction : List Char) (exponent : Int) : Decimal :=
  { negative, coefficient := ofDigits (whole ++ fraction), exponent := exponent - fraction.length }

/-- The number of decimal digits of a natural number. -/
def width (n : Nat) : Nat := (Nat.toDigits 10 n).length

def infinity : Float := 1.0 / 0.0

/-- Above `10 ^ 309` a decimal is infinite as a float, and below `10 ^ (-324)` it is zero: the
powers of ten in between are all that is ever computed. -/
def magnitude (d : Decimal) : Float :=
  let order := d.exponent + width d.coefficient
  if d.coefficient = 0 then 0.0
  else if 310 < order then infinity
  else if order < -330 then 0.0
  else Float.ofScientific d.coefficient (decide (d.exponent < 0)) d.exponent.natAbs

/-- The float nearest to a decimal. -/
def toFloat (d : Decimal) : Float := if d.negative then -d.magnitude else d.magnitude

/-- The numbers that round to a float form an interval around it, given here in quarters of the
float's last place. Its ends belong to it if the mantissa is even. -/
structure Basin where
  low : Nat
  value : Nat
  high : Nat
  closed : Bool

def basin (x : BinaryFraction) : Basin :=
  let value := 4 * x.mantissa
  let narrow := x.mantissa = BinaryFraction.hiddenBit ∧ BinaryFraction.leastExponent < x.exponent
  { low := if narrow then value - 1 else value - 2, value, high := value + 2,
    closed := x.mantissa % 2 = 0 }

/-- Compares `candidate * 10 ^ exponent` with `quarters * 2 ^ binary / 4`. -/
def compareWith (candidate : Nat) (exponent : Int) (quarters : Nat) (binary : Int) : Ordering :=
  compare (candidate * Nat.pow 10 exponent.toNat * 4 * Nat.pow 2 (-binary).toNat)
    (quarters * Nat.pow 2 binary.toNat * Nat.pow 10 (-exponent).toNat)

def inBasin (b : Basin) (binary : Int) (candidate : Nat) (exponent : Int) : Bool :=
  let low := compareWith candidate exponent b.low binary
  let high := compareWith candidate exponent b.high binary
  if b.closed then low != .lt && high != .gt else low == .gt && high == .lt

/-- Whether `candidate` lies at least as near to the value as `candidate + 1`. -/
def nearerBelow (b : Basin) (binary : Int) (candidate : Nat) (exponent : Int) : Bool :=
  match compareWith (2 * candidate + 1) exponent (2 * b.value) binary with
  | .gt => true
  | .lt => false
  | .eq => candidate % 2 = 0

/-- The exponent of the leading decimal digit of `mantissa * 2 ^ exponent`. -/
def leadingExponent (x : BinaryFraction) : Int :=
  let (numerator, denominator) := x.scaled 1
  if denominator ≤ numerator then (width (numerator / denominator) : Int) - 1
  else
    let shift := width (denominator / numerator)
    if denominator ≤ numerator * Nat.pow 10 (shift - 1) then 1 - (shift : Int) else -(shift : Int)

/-- The numeral of `places` digits nearest to `x` among those that read back as `x`. -/
def ofPlaces? (x : BinaryFraction) (places : Nat) : Option Decimal :=
  let exponent := leadingExponent x - (places : Int) + 1
  let (numerator, denominator) := x.scaled 1
  let below := numerator * Nat.pow 10 (-exponent).toNat / (denominator * Nat.pow 10 exponent.toNat)
  let b := basin x
  let fits := inBasin b x.exponent
  let pick := match fits below exponent, fits (below + 1) exponent with
    | true, true => some (if nearerBelow b x.exponent below exponent then below else below + 1)
    | true, false => some below
    | false, true => some (below + 1)
    | false, false => none
  pick.map fun coefficient => { negative := x.negative, coefficient, exponent }

/-- The shortest numeral that reads back as `x`. Seventeen digits always suffice. -/
def shortest (x : BinaryFraction) : Decimal :=
  if x.mantissa = 0 then { negative := x.negative, coefficient := 0, exponent := 0 }
  else ((List.range 17).findSome? fun n => ofPlaces? x (n + 1)).getD
    { negative := x.negative, coefficient := 0, exponent := 0 }

/-- Positional notation, without exponent and without a point where no digit follows it. -/
def positional (d : Decimal) : String :=
  let digits := Nat.toDigits 10 d.coefficient
  let sign := if d.negative then "-" else ""
  let places := (-d.exponent).toNat
  if d.coefficient = 0 then sign ++ "0"
  else if places = 0 then
    sign ++ String.ofList (digits ++ List.replicate d.exponent.toNat '0')
  else
    let padded := List.replicate (places + 1 - digits.length) '0' ++ digits
    let whole := padded.take (padded.length - places)
    let fraction := padded.drop (padded.length - places)
    let kept := (fraction.reverse.dropWhile (· = '0')).reverse
    if kept.isEmpty then sign ++ String.ofList whole
    else sign ++ String.ofList whole ++ "." ++ String.ofList kept

end Decimal

/-- A float in positional notation with the fewest digits that read back. -/
def floatText (x : Float) : String :=
  match BinaryFraction.ofFloat? x with
  | some exact => (Decimal.shortest exact).positional
  | none => if x.isNaN then "NaN" else if x < 0.0 then "-inf" else "inf"

end LoadTest
