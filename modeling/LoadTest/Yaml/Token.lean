import LoadTest.Yaml.Scalar
import LoadTest.Yaml.Tag

/-!
# YAML tokens

The tokens of a text. Blocks are marked by indentation: a line further right opens one, and a line
further left closes those that it leaves. That a scalar is a key shows only at the colon after it;
the tokens that precede a key are then put in where it started.
-/

namespace LoadTest.Yaml

inductive Token where
  /-- The version of the format that a document is written in. -/
  | version (major minor : Nat)
  /-- What a tag handle stands for. -/
  | handle (name meaning : String)
  | documentStart
  | documentEnd
  | blockSequence
  | blockMapping
  | blockEnd
  | flowSequence
  | flowSequenceEnd
  | flowMapping
  | flowMappingEnd
  /-- The dash before an entry of a block. -/
  | entry
  | comma
  | key
  | value
  | reference (name : String)
  | anchor (name : String)
  | tag (tag : Tag)
  | scalar (style : Style) (text : String)
  deriving DecidableEq, Repr

namespace Token

/-- A place where a key may have started. -/
structure KeyStart where
  /-- How many tokens precede it. -/
  count : Nat
  /-- Whether nothing but a key can stand there. -/
  required : Bool
  line : Nat
  column : Nat
  index : Nat

/-- How long a key may be. -/
def longestKey : Nat := 1024

/-- A key has to end on its line, and soon. -/
def KeyStart.isStale (k : KeyStart) (c : Cursor) : Bool :=
  k.line < c.line || k.index + longestKey < c.index

structure Scan where
  cursor : Cursor
  /-- The tokens so far, latest first. -/
  tokens : List Token := []
  /-- The column of the current block. -/
  indent : Int := -1
  /-- The columns of the blocks around it, innermost first. -/
  outerIndents : List Int := []
  keyAllowed : Bool := true
  keyStart : Option KeyStart := none
  /-- The possible keys outside the brackets around the cursor, innermost first. -/
  outerKeys : List (Option KeyStart) := []

namespace Scan

/-- Whether the cursor is inside brackets. -/
def inFlow (s : Scan) : Bool := !s.outerKeys.isEmpty

def push (s : Scan) (t : Token) : Scan := { s with tokens := t :: s.tokens }

/-- Adds a token and passes over its characters. -/
def take (s : Scan) (t : Token) (n : Nat) : Scan := { s.push t with cursor := s.cursor.skip n }

/-! ### Keys -/

/-- Gives up the possible key, which fails if a key is required. -/
def dropKey (s : Scan) : Option Scan :=
  if s.keyStart.any (·.required) then none else some { s with keyStart := none }

/-- Notes that a key may start here. -/
def saveKey (s : Scan) : Option Scan :=
  if s.keyAllowed then do
    let s ← s.dropKey
    let start : KeyStart :=
      { count := s.tokens.length, required := !s.inFlow && s.indent == s.cursor.column,
        line := s.cursor.line, column := s.cursor.column, index := s.cursor.index }
    return { s with keyStart := some start }
  else some s

/-- Gives up the possible keys that are too far away. -/
def dropStale (s : Scan) : Option Scan := do
  let fresh : Option KeyStart → Option (Option KeyStart)
    | none => some none
    | some k => if k.isStale s.cursor then if k.required then none else some none else some (some k)
  let keyStart ← fresh s.keyStart
  let outerKeys ← s.outerKeys.mapM fresh
  return { s with keyStart, outerKeys }

/-! ### Blocks -/

/-- Opens a block at a column that is further right than the current one. -/
def openBlock (s : Scan) (column : Nat) : Option Scan :=
  if !s.inFlow && s.indent < column then
    some { s with indent := column, outerIndents := s.indent :: s.outerIndents }
  else none

/-- Opens a block and marks it, unless there is one. -/
def roll (s : Scan) (mark : Token) : Scan :=
  match s.openBlock s.cursor.column with
  | some s => s.push mark
  | none => s

/-- Closes the blocks that are further right than a column. -/
def unroll (column : Int) (s : Scan) : Scan :=
  if s.inFlow then s else close s s.outerIndents
where
  close (s : Scan) : List Int → Scan
    | [] => s
    | outer :: rest =>
      if column < s.indent then
        close { s.push .blockEnd with indent := outer, outerIndents := rest } rest
      else s

/-! ### Tokens by kind -/

/-- Passes over blanks, comments and line ends. -/
def skipGap : Nat → Scan → Scan
  | 0, s => s
  | fuel + 1, s =>
    let c := s.cursor
    let c := if c.column = 0 && c.has '\ufeff' then c.skip 1 else c
    let c := c.skipWhile fun x => x = ' ' || (x = '\t' && (s.inFlow || !s.keyAllowed))
    let c := if c.has '#' then c.skipWhile fun x => !isBreak x else c
    if c.head?.any isBreak then
      skipGap fuel { s with cursor := c.skipBreak, keyAllowed := s.keyAllowed || !s.inFlow }
    else { s with cursor := c }

/-- The marker of the start or the end of a document. -/
def document (s : Scan) (mark : Token) : Option Scan := do
  let s ← (s.unroll (-1)).dropKey
  return { s with keyAllowed := false }.take mark 3

def flowStart (s : Scan) (mark : Token) : Option Scan := do
  let s ← s.saveKey
  return { s with keyStart := none, outerKeys := s.keyStart :: s.outerKeys, keyAllowed := true }.take
    mark 1

def flowEnd (s : Scan) (mark : Token) : Option Scan := do
  let s ← s.dropKey
  let s := match s.outerKeys with
    | keyStart :: outerKeys => { s with keyStart, outerKeys }
    | [] => s
  return { s with keyAllowed := false }.take mark 1

def flowComma (s : Scan) : Option Scan := do
  let s ← s.dropKey
  return { s with keyAllowed := true }.take .comma 1

def blockEntry (s : Scan) : Option Scan := do
  if !s.inFlow && !s.keyAllowed then none
  let s ← (s.roll .blockSequence).dropKey
  return { s with keyAllowed := true }.take .entry 1

/-- A question mark before a key. -/
def markedKey (s : Scan) : Option Scan := do
  if !s.inFlow && !s.keyAllowed then none
  let s ← (s.roll .blockMapping).dropKey
  return { s with keyAllowed := !s.inFlow }.take .key 1

/-- Puts the token of a key, and that of the block it opens, where the key started. -/
def insertKey (s : Scan) (k : KeyStart) : Scan :=
  let (after, before) := s.tokens.splitAt (s.tokens.length - k.count)
  match s.openBlock k.column with
  | some s => { s with tokens := after ++ .key :: .blockMapping :: before }
  | none => { s with tokens := after ++ .key :: before }

/-- A colon after a key. -/
def colon (s : Scan) : Option Scan :=
  match s.keyStart with
  | some k => some ({ s.insertKey k with keyStart := none, keyAllowed := false }.take .value 1)
  | none =>
    if !s.inFlow && !s.keyAllowed then none
    else some ({ s.roll .blockMapping with keyAllowed := !s.inFlow }.take .value 1)

/-- The name of an anchor after its mark. -/
def named (s : Scan) (token : String → Token) : Option Scan := do
  let s ← s.saveKey
  let (name, cursor) ← readName (s.cursor.skip 1)
  return { s.push (token name) with cursor, keyAllowed := false }

def tagged (s : Scan) : Option Scan := do
  let s ← s.saveKey
  let (read, cursor) ← Tag.read s.inFlow s.cursor
  return { s.push (.tag read) with cursor, keyAllowed := false }

def block (s : Scan) (folded : Bool) : Option Scan := do
  let s ← s.dropKey
  let (text, cursor) ← readBlock folded s.indent (s.cursor.skip 1)
  let style := if folded then .folded else .literal
  return { s.push (.scalar style text) with cursor, keyAllowed := true }

def quoted (s : Scan) (read : Folded → Nat → Cursor → Option (String × Cursor)) : Option Scan := do
  let s ← s.saveKey
  let (text, cursor) ← read {} s.cursor.rest.length (s.cursor.skip 1)
  return { s.push (.scalar .quoted text) with cursor, keyAllowed := false }

def plain (s : Scan) : Option Scan := do
  let s ← s.saveKey
  let (f, cursor) ← readPlain s.inFlow (s.indent + 1) {} (s.cursor.rest.length + 1) s.cursor
  return { s.push (.scalar .plain f.text) with cursor, keyAllowed := f.broken }

/-! ### Directives -/

/-- A part of a version number, of at most nine digits. -/
def versionPart (c : Cursor) : Option (Nat × Cursor) :=
  let digits := c.rest.takeWhile Char.isDigit
  if digits.isEmpty || 9 < digits.length then none
  else some (digits.foldl (fun n d => n * 10 + (d.toNat - '0'.toNat)) 0, c.skip digits.length)

def versionDirective (c : Cursor) : Option (Token × Cursor) := do
  let (major, c) ← versionPart (c.skipWhile isBlank)
  if !c.has '.' then none
  let (minor, c) ← versionPart (c.skip 1)
  return (.version major minor, c)

def handleDirective (c : Cursor) : Option (Token × Cursor) := do
  let (name, c) ← readHandle (c.skipWhile isBlank)
  if 1 < name.length && !name.endsWith "!" then none
  if !c.head?.any isBlank then none
  let (meaning, c) ← readSuffix true (c.skipWhile isBlank)
  if !c.gapAt 0 then none
  return (.handle name meaning, c)

def directive (s : Scan) : Option Scan := do
  let s ← (s.unroll (-1)).dropKey
  let c := s.cursor.skip 1
  let name := c.takeWhile isNameChar
  let c := c.skipWhile isNameChar
  if !c.gapAt 0 then none
  let (token, c) ←
    if name = "YAML" then versionDirective c
    else if name = "TAG" then handleDirective c
    else none
  let c := c.skipWhile isBlank
  let c := if c.has '#' then c.skipWhile fun x => !isBreak x else c
  let cursor ← match c.head? with
    | none => some c
    | some x => if isBreak x then some c.skipBreak else none
  return { s.push token with cursor, keyAllowed := false }

/-! ### The next token -/

/-- Whether a plain scalar may start here. -/
def startsPlain (s : Scan) (x : Char) : Bool :=
  !("-?:,[]\x7b\x7d#&*!|>'\"%@`".toList.contains x || isBlank x || isBreak x) ||
    (x = '-' && !(s.cursor.peek? 1).any isBlank) ||
    (!s.inFlow && (x = '?' || x = ':') && !s.cursor.gapAt 1)

/-- Reads the token that starts with `x`. -/
def token (s : Scan) (x : Char) : Option Scan :=
  let apart := s.cursor.gapAt 1
  if s.cursor.column = 0 && x = '%' then s.directive
  else if s.cursor.atMarker then s.document (if x = '-' then .documentStart else .documentEnd)
  else if x = '[' then s.flowStart .flowSequence
  else if x = '\x7b' then s.flowStart .flowMapping
  else if x = ']' then s.flowEnd .flowSequenceEnd
  else if x = '\x7d' then s.flowEnd .flowMappingEnd
  else if x = ',' then s.flowComma
  else if x = '-' && apart then s.blockEntry
  else if x = '?' && (s.inFlow || apart) then s.markedKey
  else if x = ':' && (s.inFlow || apart) then s.colon
  else if x = '*' then s.named .reference
  else if x = '&' then s.named .anchor
  else if x = '!' then s.tagged
  else if x = '|' && !s.inFlow then s.block false
  else if x = '>' && !s.inFlow then s.block true
  else if x = '\'' then s.quoted readSingle
  else if x = '"' then s.quoted readDouble
  else if s.startsPlain x then s.plain
  else none

/-- Reads tokens up to the end of the text, which closes all blocks. -/
def run : Nat → Scan → Option Scan
  | 0, _ => none
  | fuel + 1, s => do
    let s ← (skipGap (s.cursor.rest.length + 1) s).dropStale
    match s.cursor.head? with
    | none => (s.unroll (-1)).dropKey
    | some x =>
      let s ← (s.unroll s.cursor.column).token x
      run fuel s

end Scan

/-- The tokens of a text. -/
def scan? (text : String) : Option (List Token) :=
  let cs := match text.toList with
    | '\ufeff' :: rest => rest
    | cs => cs
  if cs.all isAllowed then
    let rest := uniformLines cs
    (Scan.run (rest.length + 1) { cursor := { rest } }).map fun s => s.tokens.reverse
  else none

end Token

end LoadTest.Yaml
