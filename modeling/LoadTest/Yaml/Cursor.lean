/-!
# Positions in YAML text

A cursor is the rest of a text and the place where it starts. Line ends are made uniform before a
text is read: what remains are the line feed and the Unicode separators of lines and paragraphs.
-/

namespace LoadTest.Yaml

/-- Whether a character may stand in a text at all. -/
def isAllowed (c : Char) : Bool :=
  let n := c.toNat
  n = 0x09 || n = 0x0a || n = 0x0d || (0x20 ≤ n && n ≤ 0x7e) || n = 0x85 ||
    (0xa0 ≤ n && n ≤ 0xfffd) || 0x10000 ≤ n

/-- Makes every line end a line feed. -/
def uniformLines : List Char → List Char
  | '\r' :: '\n' :: rest => '\n' :: uniformLines rest
  | '\r' :: rest => '\n' :: uniformLines rest
  | '\u0085' :: rest => '\n' :: uniformLines rest
  | c :: rest => c :: uniformLines rest
  | [] => []

def isBreak (c : Char) : Bool := c = '\n' || c = '\u2028' || c = '\u2029'

def isBlank (c : Char) : Bool := c = ' ' || c = '\t'

structure Cursor where
  rest : List Char
  line : Nat := 0
  column : Nat := 0
  index : Nat := 0

namespace Cursor

def head? (c : Cursor) : Option Char := c.rest.head?

/-- The character some places ahead. -/
def peek? (c : Cursor) (n : Nat) : Option Char := c.rest[n]?

/-- Whether the character some places ahead is the given one. -/
def hasAt (c : Cursor) (n : Nat) (x : Char) : Bool := c.peek? n = some x

def has (c : Cursor) (x : Char) : Bool := c.hasAt 0 x

/-- Whether a blank, a line end or the end of the text lies some places ahead. -/
def gapAt (c : Cursor) (n : Nat) : Bool :=
  match c.peek? n with
  | none => true
  | some x => isBlank x || isBreak x

/-- Passes over characters of one line. -/
def skip (c : Cursor) (n : Nat) : Cursor :=
  { c with rest := c.rest.drop n, column := c.column + n, index := c.index + n }

/-- Passes over a line end. -/
def skipBreak (c : Cursor) : Cursor :=
  { rest := c.rest.drop 1, line := c.line + 1, column := 0, index := c.index + 1 }

/-- Passes over the characters of one line that satisfy `p`. -/
def skipWhile (c : Cursor) (p : Char → Bool) : Cursor := c.skip (c.rest.takeWhile p).length

/-- The characters of one line that satisfy `p`. -/
def takeWhile (c : Cursor) (p : Char → Bool) : String := String.ofList (c.rest.takeWhile p)

/-- Whether a line starts here with the marker of the start or the end of a document. -/
def atMarker (c : Cursor) : Bool :=
  c.column = 0 && (c.rest.take 3 = ['-', '-', '-'] || c.rest.take 3 = ['.', '.', '.']) && c.gapAt 3

end Cursor

end LoadTest.Yaml
