import LoadTest.Fault
import LoadTest.Time.Duration

/-!
# Records in data formats

A `Dialect` says how a data format presents records and their leaves. Decoders are written once
against it and serve every format.
-/

namespace LoadTest

/-- What a record says about one of its fields. -/
inductive Slot (ν : Type) where
  | given (value : ν)
  /-- A record with named fields does not name this one. -/
  | missing
  /-- A record given as a list ends before this field. -/
  | cut

/-- How values of type `ν` are read. -/
structure Dialect (ν : Type) where
  /-- A count below `wordLimit`. -/
  word? : ν → Option Nat
  float? : ν → Option Float
  bool? : ν → Option Bool
  text? : ν → Option String
  isNull : ν → Bool
  /-- The fields of a record, in the order of the given names. Fails if a name is repeated or a list
  has more entries than there are names. -/
  slots? : List String → ν → Option (List (Slot ν))

namespace Slot

variable {ν α : Type}

/-- A field that has to be given. -/
def required (read : ν → Option α) : Slot ν → Option α
  | .given v => read v
  | _ => none

/-- A field with a default. -/
def orElse (read : ν → Option α) (default : α) : Slot ν → Option α
  | .given v => read v
  | _ => some default

/-- A field that may be null or unnamed, but not cut off. -/
def optional (d : Dialect ν) (read : ν → Option α) : Slot ν → Option (Option α)
  | .given v => if d.isNull v then some none else (read v).map some
  | .missing => some none
  | .cut => none

/-- A field that may be null or left out in any way. -/
def orNone (d : Dialect ν) (read : ν → Option α) : Slot ν → Option (Option α)
  | .given v => if d.isNull v then some none else (read v).map some
  | _ => some none

/-- The slots of named fields; a repeated name fails. -/
def ofMembers? (names : List String) (members : List (String × ν)) : Option (List (Slot ν)) :=
  names.mapM fun name =>
    match members.filter fun (key, _) => key = name with
    | [] => some .missing
    | [(_, v)] => some (.given v)
    | _ => none

/-- The slots of a list, one entry for each name as far as the list goes. -/
def ofItems : List String → List ν → List (Slot ν)
  | [], _ => []
  | _ :: names, [] => .cut :: ofItems names []
  | _ :: names, v :: items => .given v :: ofItems names items

end Slot

namespace Dialect

variable {ν : Type}

/-- A count below `2 ^ 64`, as a word. -/
def uint64? (d : Dialect ν) (v : ν) : Option UInt64 := (d.word? v).map UInt64.ofNat

/-- A duration in whole milliseconds. -/
def millis? (d : Dialect ν) (v : ν) : Option Duration := (d.uint64? v).map Duration.ofMillis

end Dialect

end LoadTest
