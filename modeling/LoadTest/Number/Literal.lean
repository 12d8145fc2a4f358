import LoadTest.Fault
import LoadTest.Number.Decimal

/-!
# Values in plain text

Counts, floats and truth values as they stand in a text of their own, such as an environment
variable. Each reader says what is wrong with a text that it refuses.
-/

namespace LoadTest

/-- What is wrong with a text that should hold a value. -/
inductive LiteralFlaw where
  | emptyCount
  | invalidDigit
  | tooLargeCount
  | emptyFloat
  | invalidFloat
  | invalidTruth
  deriving DecidableEq, Repr

namespace LiteralFlaw

def message : LiteralFlaw → String
  | .emptyCount => "cannot parse integer from empty string"
  | .invalidDigit => "invalid digit found in string"
  | .tooLargeCount => "number too large to fit in target type"
  | .emptyFloat => "cannot parse float from empty string"
  | .invalidFloat => "invalid float literal"
  | .invalidTruth => "provided string was not `true` or `false`"

end LiteralFlaw

/-- Reads on after the digits of `n`; the first fault from the left counts. -/
def countFrom (n : Nat) : List Char → Except LiteralFlaw Nat
  | [] => .ok n
  | c :: rest =>
    if !c.isDigit then .error .invalidDigit
    else
      let next := n * 10 + (c.toNat - '0'.toNat)
      if next < wordLimit then countFrom next rest else .error .tooLargeCount

/-- A count below `2 ^ 64`, which a plus sign may precede. -/
def parseCount (text : String) : Except LiteralFlaw Nat :=
  match text.toList with
  | [] => .error .emptyCount
  | '+' :: rest => if rest.isEmpty then .error .invalidDigit else countFrom 0 rest
  | cs => countFrom 0 cs

/-- A sign at the front of a text. -/
def splitSign : List Char → Bool × List Char
  | '-' :: rest => (true, rest)
  | '+' :: rest => (false, rest)
  | cs => (false, cs)

/-- Digits with at most one point among them: those before and those after it, and the rest. -/
def splitNumeral (cs : List Char) : List Char × List Char × List Char :=
  let whole := cs.takeWhile Char.isDigit
  match cs.dropWhile Char.isDigit with
  | '.' :: rest => (whole, rest.takeWhile Char.isDigit, rest.dropWhile Char.isDigit)
  | rest => (whole, [], rest)

/-- The power of ten at the end of a numeral; none is the zeroth. -/
def powerOfTen? : List Char → Option Int
  | [] => some 0
  | 'e' :: rest | 'E' :: rest =>
    let (negative, digits) := splitSign rest
    if digits.isEmpty || !digits.all Char.isDigit then none
    else some (if negative then -(Decimal.ofDigits digits : Int) else Decimal.ofDigits digits)
  | _ => none

/-- The names of floats that have no numeral, in lower case. -/
def namedFloats : List (String × Float) :=
  [("inf", Decimal.infinity), ("infinity", Decimal.infinity),
   ("nan", Float.ofBits 0x7ff8000000000000)]

/-- The float of a numeral, which has a digit before or after its point. -/
def numeral? (cs : List Char) : Option Float :=
  let (whole, fraction, rest) := splitNumeral cs
  if whole.isEmpty && fraction.isEmpty then none
  else (powerOfTen? rest).map fun e => (Decimal.ofParts false whole fraction e).toFloat

/-- A float without its sign. -/
def magnitude? (cs : List Char) : Option Float :=
  match namedFloats.lookup (String.ofList (cs.map Char.toLower)) with
  | some x => some x
  | none => numeral? cs

/-- A float in decimal notation, or the name of an infinite or undefined one, with any sign. -/
def parseFloat (text : String) : Except LiteralFlaw Float :=
  if text.isEmpty then .error .emptyFloat
  else
    let (negative, cs) := splitSign text.toList
    match magnitude? cs with
    | some x => .ok (if negative then -x else x)
    | none => .error .invalidFloat

def parseTruth (text : String) : Except LiteralFlaw Bool :=
  if text = "true" then .ok true
  else if text = "false" then .ok false
  else .error .invalidTruth

end LoadTest
