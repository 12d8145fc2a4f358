import LoadTest.RunId
import LoadTest.Yaml.Cursor

/-!
# Scalars in YAML text

Plain scalars, scalars in quotes, and blocks. In the first two a line end counts as a blank, and
several of them as one fewer; in a folded block so do those between lines that are not indented
further.
-/

namespace LoadTest.Yaml

inductive Style where
  | plain
  | quoted
  /-- A block that keeps its line ends. -/
  | literal
  /-- A block whose lines are joined. -/
  | folded
  deriving DecidableEq, Repr

/-! ### Folding -/

/-- A scalar as far as it has been read, and the blanks and line ends since. -/
structure Folded where
  text : String := ""
  spaces : String := ""
  /-- Whether a line has ended since the last character. -/
  broken : Bool := false
  /-- The first line end. -/
  first : String := ""
  /-- The line ends after the first one. -/
  more : String := ""

namespace Folded

/-- Makes the blanks and line ends part of the text. -/
def joined (f : Folded) : Folded :=
  if f.broken then
    let gap := if f.first = "\n" then if f.more.isEmpty then " " else f.more else f.first ++ f.more
    { text := f.text ++ gap }
  else { text := f.text ++ f.spaces }

def push (f : Folded) (c : Char) : Folded := { f with text := f.text.push c }

end Folded

/-- Reads blanks and line ends. Blanks after a line end do not count; a tab among them may not stand
before column `indent`. -/
def readGap (indent : Int) (f : Folded) : Nat → Cursor → Option (Folded × Cursor)
  | 0, c => some (f, c)
  | fuel + 1, c =>
    match c.head? with
    | none => some (f, c)
    | some x =>
      if isBlank x then
        if f.broken then
          if x = '\t' && c.column < indent then none else readGap indent f fuel (c.skip 1)
        else readGap indent { f with spaces := f.spaces.push x } fuel (c.skip 1)
      else if isBreak x then
        let f := if f.broken then { f with more := f.more.push x }
          else { f with spaces := "", broken := true, first := x.toString }
        readGap indent f fuel c.skipBreak
      else some (f, c)

/-! ### Plain scalars -/

def isFlowMark (c : Char) : Bool := c = ',' || c = '[' || c = ']' || c = '\x7b' || c = '\x7d'

/-- Reads a plain scalar; `indent` is the least column of its further lines. -/
def readPlain (inFlow : Bool) (indent : Int) (f : Folded) : Nat → Cursor → Option (Folded × Cursor)
  | 0, c => some (f, c)
  | fuel + 1, c =>
    match c.head? with
    | none => some (f, c)
    | some x =>
      if isBlank x || isBreak x then
        match readGap indent f c.rest.length c with
        | none => none
        | some (f, c) =>
          if (!inFlow && c.column < indent) || c.atMarker || c.has '#' then some (f, c)
          else readPlain inFlow indent f fuel c
      else if inFlow && x = ':' && (c.peek? 1).any (fun y => isFlowMark y || y = '?') then none
      else if (x = ':' && c.gapAt 1) || (inFlow && isFlowMark x) then some (f, c)
      else readPlain inFlow indent (f.joined.push x) fuel (c.skip 1)

/-! ### Scalars in quotes -/

/-- A single quote in single quotes is written twice. -/
def readSingle (f : Folded) : Nat → Cursor → Option (String × Cursor)
  | 0, _ => none
  | fuel + 1, c =>
    match c.head? with
    | none => none
    | some x =>
      if c.atMarker then none
      else if isBlank x || isBreak x then
        match readGap (-1) f c.rest.length c with
        | some (f, c) => readSingle f fuel c
        | none => none
      else if x = '\'' then
        if c.hasAt 1 '\'' then readSingle (f.joined.push '\'') fuel (c.skip 2)
        else some (f.joined.text, c.skip 1)
      else readSingle (f.joined.push x) fuel (c.skip 1)

/-- Escapes of one character. -/
def escapes : List (Char × Char) :=
  [('0', '\x00'), ('a', '\x07'), ('b', '\x08'), ('t', '\t'), ('\t', '\t'), ('n', '\n'),
   ('v', '\x0b'), ('f', '\x0c'), ('r', '\r'), ('e', '\x1b'), (' ', ' '), ('"', '"'), ('/', '/'),
   ('\\', '\\'), ('N', '\u0085'), ('_', '\u00a0'), ('L', '\u2028'), ('P', '\u2029')]

/-- How many hexadecimal digits follow an escape. -/
def hexEscapes : List (Char × Nat) := [('x', 2), ('u', 4), ('U', 8)]

/-- The character of an escape, and how many places the escape takes. -/
def escape? (c : Cursor) : Option (Char × Nat) := do
  let kind ← c.peek? 1
  match List.lookup kind escapes with
  | some meant => some (meant, 2)
  | none =>
    let width ← List.lookup kind hexEscapes
    let digits := (c.rest.drop 2).take width
    let values ← digits.mapM RunId.hexValue?
    let code := values.foldl (fun n v => n * 16 + v) 0
    if digits.length = width && code.isValidChar then some (Char.ofNat code, 2 + width) else none

def readDouble (f : Folded) : Nat → Cursor → Option (String × Cursor)
  | 0, _ => none
  | fuel + 1, c =>
    match c.head? with
    | none => none
    | some x =>
      if c.atMarker then none
      else if isBlank x || isBreak x then
        match readGap (-1) f c.rest.length c with
        | some (f, c) => readDouble f fuel c
        | none => none
      else if x = '"' then some (f.joined.text, c.skip 1)
      else if x = '\\' then
        if (c.peek? 1).any isBreak then
          -- the line end does not count, nor do the blanks after it
          readDouble { text := f.joined.text, broken := true } fuel (c.skip 1).skipBreak
        else match escape? c with
          | some (meant, width) => readDouble (f.joined.push meant) fuel (c.skip width)
          | none => none
      else readDouble (f.joined.push x) fuel (c.skip 1)

/-! ### Blocks -/

/-- What becomes of the line ends at the end of a block. -/
inductive Chomping where
  | strip
  | clip
  | keep
  deriving DecidableEq, Repr

structure BlockHeader where
  folded : Bool
  chomping : Chomping := .clip
  /-- How much further than its surroundings a block is indented, if it says so. -/
  increment : Option Nat := none

def chomping? : Char → Option Chomping
  | '-' => some .strip
  | '+' => some .keep
  | _ => none

/-- The marks after the indicator of a block. -/
def readHeader (folded : Bool) (c : Cursor) : Option (BlockHeader × Cursor) :=
  let digit? (c : Cursor) : Option (Option Nat × Cursor) :=
    match c.head? with
    | some x =>
      if x = '0' then none
      else if x.isDigit then some (some (x.toNat - '0'.toNat), c.skip 1)
      else some (none, c)
    | none => some (none, c)
  match c.head?.bind chomping? with
  | some chomping => do
    let (increment, c) ← digit? (c.skip 1)
    return ({ folded, chomping, increment }, c)
  | none => do
    let (increment, c) ← digit? c
    match increment, c.head?.bind chomping? with
    | some _, some chomping => return ({ folded, chomping, increment }, c.skip 1)
    | _, _ => return ({ folded, increment }, c)

/-- Reads indentation and empty lines. `indent` is the indentation of the block, if it is known;
`widest` is the widest indentation seen. -/
def readBreaks (indent : Option Nat) (breaks : String) (widest : Nat) :
    Nat → Cursor → Option (String × Nat × Cursor)
  | 0, c => some (breaks, widest, c)
  | fuel + 1, c =>
    let inside (column : Nat) : Bool := match indent with
      | none => true
      | some limit => column < limit
    match c.head? with
    | some ' ' =>
      if inside c.column then readBreaks indent breaks (max widest (c.column + 1)) fuel (c.skip 1)
      else some (breaks, widest, c)
    | some '\t' => if inside c.column then none else some (breaks, widest, c)
    | some x =>
      if isBreak x then readBreaks indent (breaks.push x) widest fuel c.skipBreak
      else some (breaks, widest, c)
    | none => some (breaks, widest, c)

/-- A block as far as it has been read: its text, the end of its last line, and the empty lines
since. -/
structure BlockText where
  text : String := ""
  lineEnd : String := ""
  breaks : String := ""
  /-- Whether the last line starts with a blank. -/
  indented : Bool := false

/-- Reads the lines of a block that is indented by `indent`. -/
def readBlockLines (folded : Bool) (indent : Nat) (b : BlockText) :
    Nat → Cursor → Option (BlockText × Cursor)
  | 0, c => some (b, c)
  | fuel + 1, c =>
    match c.head? with
    | none => some (b, c)
    | some x =>
      if c.column ≠ indent then some (b, c)
      else
        let indented := isBlank x
        let gap :=
          if folded && b.lineEnd = "\n" && !b.indented && !indented then
            if b.breaks.isEmpty then " " else ""
          else b.lineEnd
        let inLine (y : Char) : Bool := !isBreak y
        let text := b.text ++ gap ++ b.breaks ++ c.takeWhile inLine
        let c := c.skipWhile inLine
        let (lineEnd, c) := match c.head? with
          | some y => (y.toString, c.skipBreak)
          | none => ("", c)
        match readBreaks (some indent) "" 0 c.rest.length c with
        | some (breaks, _, c) =>
          readBlockLines folded indent { text, lineEnd, breaks, indented } fuel c
        | none => none

/-- Reads a block after its indicator; `parent` is the indentation around it. -/
def readBlock (folded : Bool) (parent : Int) (c : Cursor) : Option (String × Cursor) := do
  let (header, c) ← readHeader folded c
  let c := c.skipWhile isBlank
  let c := if c.has '#' then c.skipWhile fun x => !isBreak x else c
  let c ← match c.head? with
    | none => some c
    | some x => if isBreak x then some c.skipBreak else none
  let fixed := header.increment.map fun n => (if 0 ≤ parent then parent + n else (n : Int)).toNat
  let (breaks, widest, c) ← readBreaks fixed "" 0 c.rest.length c
  let indent := fixed.getD (max widest (max (parent + 1).toNat 1))
  let (b, c) ← readBlockLines header.folded indent { breaks } (c.rest.length + 1) c
  let text := match header.chomping with
    | .strip => b.text
    | .clip => b.text ++ b.lineEnd
    | .keep => b.text ++ b.lineEnd ++ b.breaks
  return (text, c)

end LoadTest.Yaml
