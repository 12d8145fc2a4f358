import LoadTest.Fault
import LoadTest.Text.Blank
import LoadTest.Time.Calendar
import LoadTest.Time.Duration

/-!
# Points in time

A timestamp counts seconds since 1970 in UTC, with nanoseconds after them. A nanosecond count from
`10 ^ 9` on stands for the leap second after second 59 of a minute. The text form is that of
RFC 3339, with zero, three, six or nine digits of fraction, the fewest that are exact.
-/

namespace LoadTest

/-- The first second of the year -262143. -/
def firstSecond : Int := -8334601228800

/-- The last second of the year 262142. -/
def lastSecond : Int := 8210266876799

structure Timestamp where
  seconds : Int
  nanos : Nat
  valid : firstSecond ≤ seconds ∧ seconds ≤ lastSecond ∧
    (nanos < 1000000000 ∨ nanos < 2000000000 ∧ seconds % 60 = 59) := by decide
  deriving DecidableEq

namespace Timestamp

def ofParts? (seconds : Int) (nanos : Nat) : Option Timestamp :=
  if h : firstSecond ≤ seconds ∧ seconds ≤ lastSecond ∧
      (nanos < 1000000000 ∨ nanos < 2000000000 ∧ seconds % 60 = 59) then
    some ⟨seconds, nanos, h⟩
  else none

def epoch : Timestamp := ⟨0, 0, by decide⟩

instance : Inhabited Timestamp := ⟨epoch⟩

/-- Nanoseconds since the epoch. -/
def toNanos (t : Timestamp) : Int := t.seconds * 1000000000 + t.nanos

def ofNanos? (n : Int) : Option Timestamp := ofParts? (n / 1000000000) (n % 1000000000).toNat

/-- Whether a timestamp is no later than another. -/
def before (a b : Timestamp) : Bool :=
  a.seconds < b.seconds || (a.seconds = b.seconds && a.nanos ≤ b.nanos)

def earlier (a b : Timestamp) : Timestamp := if a.before b then a else b

/-- The earliest of some timestamps. -/
def earliest? : List Timestamp → Option Timestamp
  | [] => none
  | t :: rest => some (rest.foldl earlier t)

/-- Whether a timestamp lies in a leap second. -/
def isLeap (t : Timestamp) : Bool := 1000000000 ≤ t.nanos

def secondOfDay (t : Timestamp) : Int := t.seconds % 86400

/-- Nanoseconds from `origin` to `t`. If the one with the earlier time of day lies in a leap second,
that second counts too. -/
def nanosSince (t origin : Timestamp) : Int :=
  let span := t.toNanos - origin.toNanos
  if origin.isLeap && origin.secondOfDay < t.secondOfDay then span + 1000000000
  else if t.isLeap && t.secondOfDay < origin.secondOfDay then span - 1000000000
  else span

/-- Durations beyond this one cannot be added to a timestamp. -/
def longestStep : Nat := 9223372036854775807 * 1000000

/-- The time some nanoseconds after `t`. A leap second counts only as long as it lasts. -/
def later? (t : Timestamp) (nanos : Nat) : Option Timestamp :=
  if t.isLeap then
    if t.nanos + nanos < 2000000000 then ofParts? t.seconds (t.nanos + nanos)
    else ofNanos? (t.toNanos - 1000000000 + nanos)
  else ofNanos? (t.toNanos + nanos)

/-- The end of a duration that starts at `t`. A duration beyond `longestStep` counts as none. -/
def after (t : Timestamp) (d : Duration) : Except Fault Timestamp :=
  if d.nanos ≤ longestStep then
    match t.later? d.nanos with
    | some later => .ok later
    | none => .error .timeOutOfRange
  else .ok t

/-! ### Writing -/

/-- A number with leading zeros up to `width` digits. -/
def padded (width n : Nat) : String :=
  let digits := Nat.toDigits 10 n
  String.ofList (List.replicate (width - digits.length) '0' ++ digits)

def yearText (year : Int) : String :=
  if 0 ≤ year && year ≤ 9999 then padded 4 year.toNat
  else (if year < 0 then "-" else "+") ++ padded 4 year.natAbs

def fractionText (nanos : Nat) : String :=
  if nanos = 0 then ""
  else if nanos % 1000000 = 0 then "." ++ padded 3 (nanos / 1000000)
  else if nanos % 1000 = 0 then "." ++ padded 6 (nanos / 1000)
  else "." ++ padded 9 nanos

def toText (t : Timestamp) : String :=
  let date := Date.ofDays (t.seconds / 86400)
  let ofDay := (t.seconds % 86400).toNat
  let second := if t.nanos < 1000000000 then ofDay % 60 else 60
  yearText date.year ++ "-" ++ padded 2 date.month ++ "-" ++ padded 2 date.day ++ "T" ++
    padded 2 (ofDay / 3600) ++ ":" ++ padded 2 (ofDay / 60 % 60) ++ ":" ++ padded 2 second ++
    fractionText (t.nanos % 1000000000) ++ "Z"

/-! ### Reading -/

def digitValue (c : Char) : Nat := c.toNat - '0'.toNat

/-- At most `width` digits at the front of a text, and at least one. -/
def takeNumber (width : Nat) (cs : List Char) : Option (Nat × List Char) :=
  let digits := (cs.take width).takeWhile Char.isDigit
  if digits.isEmpty then none
  else some (digits.foldl (fun n c => n * 10 + digitValue c) 0, cs.drop digits.length)

/-- A number after optional blanks. -/
def takeField (width : Nat) (cs : List Char) : Option (Nat × List Char) :=
  takeNumber width (trimFront cs)

/-- A mark after optional blanks. -/
def takeMark (mark : Char) (cs : List Char) : Option (List Char) :=
  match trimFront cs with
  | c :: rest => if c = mark then some rest else none
  | [] => none

/-- A year of at most four digits, or of any length after a sign. -/
def takeYear (cs : List Char) : Option (Int × List Char) :=
  match trimFront cs with
  | '-' :: rest => (takeNumber rest.length rest).map fun (n, after) => (-(n : Int), after)
  | '+' :: rest => (takeNumber rest.length rest).map fun (n, after) => ((n : Int), after)
  | rest => (takeNumber 4 rest).map fun (n, after) => ((n : Int), after)

/-- The digits after a point, as nanoseconds; digits beyond the ninth are cut off. -/
def takeFraction : List Char → Option (Nat × List Char)
  | '.' :: rest =>
    let digits := rest.takeWhile Char.isDigit
    let kept := digits.take 9
    if digits.isEmpty then none
    else some (kept.foldl (fun n c => n * 10 + digitValue c) 0 * Nat.pow 10 (9 - kept.length),
      rest.drop digits.length)
  | rest => some (0, rest)

def twoDigits : List Char → Option (Nat × List Char)
  | a :: b :: rest =>
    if a.isDigit && b.isDigit then some (digitValue a * 10 + digitValue b, rest) else none
  | _ => none

/-- An offset from UTC in seconds: `Z`, `UTC`, or a sign with hours and minutes. -/
def takeOffset (cs : List Char) : Option (Int × List Char) :=
  let signed (sign : Int) (rest : List Char) : Option (Int × List Char) := do
    let (hours, rest) ← twoDigits rest
    let (minutes, rest) ← twoDigits (rest.dropWhile fun c => c = ':' || isBlank c)
    if minutes ≤ 59 then some (sign * (hours * 3600 + minutes * 60 : Nat), rest) else none
  match cs with
  | 'Z' :: rest | 'z' :: rest => some (0, rest)
  | '+' :: rest => signed 1 rest
  | '-' :: rest | '−' :: rest => signed (-1) rest
  | a :: b :: c :: rest =>
    if [a, b, c].map Char.toUpper = ['U', 'T', 'C'] then some (0, rest) else none
  | _ => none

def takeDate (cs : List Char) : Option (Date × List Char) := do
  let (year, cs) ← takeYear cs
  let (month, cs) ← takeField 2 (← takeMark '-' cs)
  let (day, cs) ← takeField 2 (← takeMark '-' cs)
  some ({ year, month, day }, cs)

/-- The mark between a date and a time of day. -/
def takeDivider : List Char → Option (List Char)
  | 'T' :: rest | 't' :: rest | ' ' :: rest => some rest
  | _ => none

/-- Hour, minute and second. -/
def takeClock (cs : List Char) : Option ((Nat × Nat × Nat) × List Char) := do
  let (hour, cs) ← takeField 2 cs
  let (minute, cs) ← takeField 2 (← takeMark ':' cs)
  let (second, cs) ← takeField 2 (← takeMark ':' cs)
  some ((hour, minute, second), cs)

/-- Reads RFC 3339 with some leeway: numbers may lack leading zeros, blanks may stand before each
part, a blank may replace the `T`, and any offset from UTC is taken. -/
def ofText? (text : String) : Option Timestamp := do
  let (date, cs) ← takeDate text.toList
  let ((hour, minute, second), cs) ← takeClock (← takeDivider cs)
  let (nanos, cs) ← takeFraction cs
  let (offset, cs) ← takeOffset (trimFront cs)
  if !(trimFront cs).isEmpty || !date.isValid || 23 < hour || 59 < minute || 60 < second ||
      86400 ≤ offset.natAbs then none
  else
    let ofDay := hour * 3600 + minute * 60 + min second 59
    let wall ← ofParts? (date.toDays * 86400 + ofDay)
      (if second = 60 then nanos + 1000000000 else nanos)
    ofParts? (wall.seconds - offset) wall.nanos

end Timestamp

end LoadTest
