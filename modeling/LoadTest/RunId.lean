/-!
# Run identifiers

A run is named by 128 bits, written as five groups of hexadecimal digits.
-/

namespace LoadTest

structure RunId where
  bits : BitVec 128
  deriving DecidableEq

namespace RunId

def nil : RunId := ⟨0⟩

instance : Inhabited RunId := ⟨nil⟩

/-- The hexadecimal digits of each group. -/
def groups : List Nat := [8, 4, 4, 4, 12]

def hexDigits (n : Nat) : List Char :=
  let digits := Nat.toDigits 16 n
  List.replicate (32 - digits.length) '0' ++ digits

/-- Splits digits into groups joined by hyphens. -/
def joinGroups : List Nat → List Char → List Char
  | [], _ => []
  | [_], digits => digits
  | size :: sizes, digits => digits.take size ++ '-' :: joinGroups sizes (digits.drop size)

def toText (id : RunId) : String := String.ofList (joinGroups groups (hexDigits id.bits.toNat))

def hexValue? (c : Char) : Option Nat :=
  if '0' ≤ c && c ≤ '9' then some (c.toNat - '0'.toNat)
  else if 'a' ≤ c && c ≤ 'f' then some (c.toNat - 'a'.toNat + 10)
  else if 'A' ≤ c && c ≤ 'F' then some (c.toNat - 'A'.toNat + 10)
  else none

/-- Exactly 32 hexadecimal digits. -/
def ofDigits? (digits : List Char) : Option RunId := do
  let values ← digits.mapM hexValue?
  if values.length = 32 then some ⟨BitVec.ofNat 128 (values.foldl (fun n d => n * 16 + d) 0)⟩
  else none

/-- The digits of a text in which the groups are joined by hyphens. -/
def ungroup? : List Nat → List Char → Option (List Char)
  | [], rest => if rest.isEmpty then some [] else none
  | [size], rest => if rest.length = size then some rest else none
  | size :: sizes, rest =>
    match rest.drop size with
    | '-' :: after => (ungroup? sizes after).map (rest.take size ++ ·)
    | _ => none

def ofGrouped? (cs : List Char) : Option RunId := (ungroup? groups cs).bind ofDigits?

/-- Reads an identifier with or without hyphens; the hyphenated form may stand in braces or after
`urn:uuid:`. -/
def ofText? (text : String) : Option RunId :=
  let cs := text.toList
  let urn := "urn:uuid:".toList
  if cs.length = 32 then ofDigits? cs
  else if cs.length = 38 && cs.head? = some '\x7b' && cs.getLast? = some '\x7d' then
    ofGrouped? (cs.drop 1).dropLast
  else if urn.isPrefixOf cs then ofGrouped? (cs.drop urn.length)
  else ofGrouped? cs

end RunId

end LoadTest
