import LoadTest.Record

/-!
# TOML values

A table remembers how it came about, because that decides what may still be added to it.
-/

namespace LoadTest

namespace Toml

/-- How a table came about. -/
inductive Origin where
  /-- It has a header of its own. -/
  | header
  /-- A header names a table inside it. -/
  | implied
  /-- A dotted key names an entry inside it. -/
  | dotted
  /-- It is written as a value. -/
  | inline
  deriving DecidableEq, Repr

end Toml

inductive Toml where
  | int (value : Int)
  | float (value : Float)
  | bool (value : Bool)
  | text (value : String)
  /-- A date, a time or both. -/
  | moment
  | array (items : List Toml)
  | table (origin : Toml.Origin) (members : List (String × Toml))
  /-- The tables under one repeated header. -/
  | tables (items : List (List (String × Toml)))
  deriving Inhabited

namespace Toml

def word? : Toml → Option Nat
  | .int i => if 0 ≤ i then some i.toNat else none
  | _ => none

def float? : Toml → Option Float
  | .int i => some (Float.ofInt i)
  | .float x => some x
  | _ => none

def bool? : Toml → Option Bool
  | .bool b => some b
  | _ => none

def text? : Toml → Option String
  | .text s => some s
  | _ => none

/-- A record is a table, or an array of its fields in order, of which those beyond the last field
are skipped. A date has no field that a record could know. -/
def slots? (names : List String) : Toml → Option (List (Slot Toml))
  | .table _ members => Slot.ofMembers? names members
  | .array items => some (Slot.ofItems names items)
  | .tables items => some (Slot.ofItems names (items.map (.table .header)))
  | .moment => some (names.map fun _ => .missing)
  | _ => none

def dialect : Dialect Toml where
  word? := word?
  float? := float?
  bool? := bool?
  text? := text?
  isNull := fun _ => false
  slots? := slots?

end Toml

end LoadTest
