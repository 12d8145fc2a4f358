import LoadTest.Log.Line
import LoadTest.Number.Literal
import LoadTest.Text.Blank

/-!
# Log filters

A filter is a list of directives. Each gives a level to the parts of the program whose names start
in a certain way, and of those that fit a line the one with the longest start decides.
-/

namespace LoadTest

namespace LogLevel

/-- The names of the levels in lower case; `none` is for no lines at all. -/
def names : List (String × Option LogLevel) :=
  [("error", some .error), ("warn", some .warn), ("info", some .info), ("debug", some .debug),
   ("trace", some .trace), ("off", none)]

/-- The levels by verbosity. -/
def numbers : List (Nat × Option LogLevel) :=
  [(0, none), (1, some .error), (2, some .warn), (3, some .info), (4, some .debug), (5, some .trace)]

/-- A level by its name in any case, or by its number. -/
def parse? (text : String) : Option (Option LogLevel) :=
  match (parseCount text).toOption.bind fun n => numbers.lookup n with
  | some level => some level
  | none => names.lookup text.toLower

end LogLevel

/-- Which lines of some parts of the program are logged. -/
structure LogDirective where
  /-- How the names of the parts start. -/
  source : String := ""
  /-- The most verbose level that is logged. -/
  level : Option LogLevel := some .trace
  /-- Whether it is for the inside of a span only; no line is inside one. -/
  inSpan : Bool := false
  deriving DecidableEq, Repr

namespace LogDirective

/-- The level after an equals sign; if it is left out, every line is logged. -/
def level? (text : List Char) : Option (Option LogLevel) :=
  if text.isEmpty then some (some .trace) else LogLevel.parse? (String.ofList text)

/-- Whether a directive may start with a character. -/
def isStart (c : Char) : Bool :=
  c.isAlphanum || c = '-' || c = ':' || c = '_' || c = '[' || 0x80 ≤ c.toNat

/-- A directive is a level, the start of a name, or such a start, a span in brackets or both,
followed by an equals sign and a level. Blanks are no part of a level, nor may they precede a name
that is followed by one. -/
def parse? (text : String) : Option LogDirective := do
  let start ← (trim text).toList.head?
  if !isStart start then none
  let inName (c : Char) : Bool := c ≠ '=' && c ≠ '['
  let name := text.toList.takeWhile inName
  let shifted := name.head?.any isBlank
  match text.toList.dropWhile inName with
  | [] =>
    match LogLevel.parse? text with
    | some level => some { level }
    | none => some { source := text }
  | '=' :: level =>
    if shifted then none
    else (level? level).map fun level => { source := String.ofList name, level }
  | _ :: span =>
    match span.dropWhile (· ≠ ']') with
    | [_] => some { source := String.ofList name, inSpan := true }
    | _ :: '=' :: level =>
      (level? level).map fun level => { source := String.ofList name, level, inSpan := true }
    | _ => none

/-- Whether a directive says something about the lines of a part of the program. -/
def fits (d : LogDirective) (source : String) : Bool := !d.inSpan && d.source.isPrefixOf source

end LogDirective

structure LogFilter where
  directives : List LogDirective
  deriving DecidableEq, Repr

namespace LogFilter

/-- A filter that logs all lines up to a level. -/
def ofLevel (level : LogLevel) : LogFilter := ⟨[{ level := some level }]⟩

/-- Directives between commas, of which those without text are skipped. -/
def parse? (text : String) : Option LogFilter :=
  (((text.splitOn ",").filter (· ≠ "")).mapM LogDirective.parse?).map LogFilter.mk

/-- The directive with the longest start among those that fit; of equal ones the last. -/
def decisive? (f : LogFilter) (source : String) : Option LogDirective :=
  (f.directives.filter (·.fits source)).foldl (fun best d =>
    if best.any (d.source.length < ·.source.length) then best else some d) none

/-- Whether a line is logged. -/
def logs (f : LogFilter) (line : LogLine) : Bool :=
  ((f.decisive? line.source).bind (·.level)).any (line.level.verbosity ≤ ·.verbosity)

end LogFilter

end LoadTest
