import LoadTest.RunId
import LoadTest.Yaml.Cursor

/-!
# Tags and names in YAML text

A tag is a handle and a suffix; the directives of a document say what its handles stand for.
-/

namespace LoadTest.Yaml

/-- The characters of the names of anchors, directives and handles. -/
def isNameChar (c : Char) : Bool := c.isAlphanum || c = '_' || c = '-'

/-- The characters of a tag; `verbatim` are those allowed only between angle brackets. -/
def isTagChar (verbatim : Bool) (c : Char) : Bool :=
  isNameChar c || ";/?:@&=+$.!~*'()".toList.contains c || (verbatim && ",[]".toList.contains c)

/-- The name of an anchor, and what may follow it. -/
def readName (c : Cursor) : Option (String × Cursor) :=
  let name := c.takeWhile isNameChar
  let c := c.skipWhile isNameChar
  if name.isEmpty then none
  else if c.gapAt 0 || c.head?.any "?:,]\x7d%@`".toList.contains then some (name, c)
  else none

/-- A byte written as two hexadecimal digits after a percent sign. -/
def percentByte? : List Char → Option (UInt8 × List Char)
  | '%' :: high :: low :: rest => do
    let h ← RunId.hexValue? high
    let l ← RunId.hexValue? low
    return (UInt8.ofNat (h * 16 + l), rest)
  | _ => none

/-- How many bytes a character takes in UTF-8, by its first byte. -/
def utf8Width? (b : UInt8) : Option Nat :=
  if b &&& 0x80 = 0 then some 1
  else if b &&& 0xe0 = 0xc0 then some 2
  else if b &&& 0xf0 = 0xe0 then some 3
  else if b &&& 0xf8 = 0xf0 then some 4
  else none

/-- The bytes of one character, each after a percent sign; those after the first have to continue
a character. -/
def percentBytes? : Nat → List Char → Option (List UInt8 × List Char)
  | 0, rest => some ([], rest)
  | more + 1, rest => do
    let (b, rest) ← percentByte? rest
    if b &&& 0xc0 ≠ 0x80 then none
    let (bytes, rest) ← percentBytes? more rest
    return (b :: bytes, rest)

/-- A character written with percent signs, and how many places it takes. -/
def percentChar? (cs : List Char) : Option (String × Nat) := do
  let (b, rest) ← percentByte? cs
  let width ← utf8Width? b
  let (bytes, _) ← percentBytes? (width - 1) rest
  let text ← String.fromUTF8? ⟨(b :: bytes).toArray⟩
  return (text, 3 * width)

/-- The characters of a tag from here on. -/
def readTagText (verbatim : Bool) (text : String) : Nat → Cursor → Option (String × Cursor)
  | 0, c => some (text, c)
  | fuel + 1, c =>
    match c.head? with
    | some x =>
      if x = '%' then
        match percentChar? c.rest with
        | some (more, width) => readTagText verbatim (text ++ more) fuel (c.skip width)
        | none => none
      else if isTagChar verbatim x then readTagText verbatim (text.push x) fuel (c.skip 1)
      else some (text, c)
    | none => some (text, c)

/-- A tag text of at least one character. -/
def readSuffix (verbatim : Bool) (c : Cursor) : Option (String × Cursor) := do
  let (text, after) ← readTagText verbatim "" c.rest.length c
  if after.index = c.index then none else some (text, after)

/-- An exclamation mark, a name, and a second exclamation mark if there is one. -/
def readHandle (c : Cursor) : Option (String × Cursor) :=
  if c.has '!' then
    let name := (c.skip 1).takeWhile isNameChar
    let c := (c.skip 1).skipWhile isNameChar
    if c.has '!' then some ("!" ++ name ++ "!", c.skip 1) else some ("!" ++ name, c)
  else none

structure Tag where
  handle : String
  suffix : String
  deriving DecidableEq, Repr

namespace Tag

/-- Reads a tag that starts with an exclamation mark. The mark alone is a tag without a handle. -/
def read (inFlow : Bool) (c : Cursor) : Option (Tag × Cursor) := do
  let (tag, c) ←
    if c.hasAt 1 '<' then do
      let (suffix, c) ← readSuffix true (c.skip 2)
      if c.has '>' then some (({ handle := "", suffix } : Tag), c.skip 1) else none
    else do
      let (handle, c) ← readHandle c
      if 1 < handle.length && handle.endsWith "!" then do
        let (suffix, c) ← readSuffix false c
        some (({ handle, suffix } : Tag), c)
      else do
        let (suffix, c) ← readTagText false (handle.drop 1).toString c.rest.length c
        if suffix.isEmpty then some (({ handle := "", suffix := "!" } : Tag), c)
        else some (({ handle := "!", suffix } : Tag), c)
  if c.gapAt 0 || (inFlow && c.has ',') then some (tag, c) else none

/-- What handles stand for unless a document says otherwise. -/
def defaultHandles : List (String × String) := [("!", "!"), ("!!", "tag:yaml.org,2002:")]

/-- The full tag, if its handle is known. -/
def resolve? (handles : List (String × String)) (t : Tag) : Option String :=
  if t.handle.isEmpty then some t.suffix
  else (handles.lookup t.handle).map (· ++ t.suffix)

end Tag

end LoadTest.Yaml
