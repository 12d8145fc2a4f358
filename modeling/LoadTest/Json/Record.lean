import LoadTest.Json.Basic
import LoadTest.Record
import LoadTest.RunId
import LoadTest.Time.Timestamp

/-!
# Records in JSON

A record is an object, of which unknown members are skipped, or an array of its fields in order. A
choice is the name of the chosen case; a tagged choice is an object with a member for the name, or
an array that starts with it.
-/

namespace LoadTest.Json

def word? : Json → Option Nat
  | .int (.ofNat n) => if n < wordLimit then some n else none
  | _ => none

/-- A finite number. -/
def float? : Json → Option Float
  | .int i => let x := Float.ofInt i; if x.isFinite then some x else none
  | .real x => if x.isFinite then some x else none
  | _ => none

def bool? : Json → Option Bool
  | .bool b => some b
  | _ => none

def text? : Json → Option String
  | .str s => some s
  | _ => none

def isNull : Json → Bool
  | .null => true
  | _ => false

def slots? (names : List String) : Json → Option (List (Slot Json))
  | .obj members => Slot.ofMembers? names members
  | .arr items => if items.length ≤ names.length then some (Slot.ofItems names items) else none
  | _ => none

def dialect : Dialect Json where
  word? := word?
  float? := float?
  bool? := bool?
  text? := text?
  isNull := isNull
  slots? := slots?

def uint64? (j : Json) : Option UInt64 := dialect.uint64? j

def millis? (j : Json) : Option Duration := dialect.millis? j

def items? : Json → Option (List Json)
  | .arr items => some items
  | _ => none

/-- Every entry of an array. -/
def list? {α : Type} (read : Json → Option α) (j : Json) : Option (List α) := do
  (← j.items?).mapM read

def ofUInt64 (n : UInt64) : Json := .nat n.toNat

/-! ### Leaves with a text or a record of their own -/

/-- A duration in whole milliseconds. -/
def ofMillis (d : Duration) : Json := .nat d.wireMillis

/-- A duration as whole seconds and the nanoseconds after them. -/
def ofDuration (d : Duration) : Json := .obj [("secs", .nat d.seconds), ("nanos", .nat d.subNanos)]

/-- Reads seconds and nanoseconds; the nanoseconds may exceed a second, and no other member is
allowed. -/
def duration? (j : Json) : Option Duration := do
  let known := match j with
    | .obj members => members.all fun (name, _) => name = "secs" || name = "nanos"
    | _ => true
  let [seconds, nanos] ← slots? ["secs", "nanos"] j | none
  let seconds ← seconds.required word?
  let nanos ← nanos.required word?
  if known && nanos < 4294967296 then Duration.ofParts? seconds nanos else none

def ofTimestamp (t : Timestamp) : Json := .str t.toText

def timestamp? (j : Json) : Option Timestamp := j.text?.bind Timestamp.ofText?

def ofRunId (id : RunId) : Json := .str id.toText

def runId? (j : Json) : Option RunId := j.text?.bind RunId.ofText?

/-! ### Choices -/

/-- The name of a case, alone or as the only member of an object with the value `null`. -/
def caseName? : Json → Option String
  | .str s => some s
  | .obj [(name, .null)] => some name
  | _ => none

/-- The case with the given name. -/
def choice? {α : Type} (cases : List (String × α)) (j : Json) : Option α :=
  j.caseName?.bind fun name => List.lookup name cases

mutual

/-- How deep arrays and objects are nested in a value. -/
def depth : Json → Nat
  | .arr items => depthOfItems items + 1
  | .obj members => depthOfMembers members + 1
  | _ => 0

def depthOfItems : List Json → Nat
  | [] => 0
  | item :: rest => max (depth item) (depthOfItems rest)

def depthOfMembers : List (String × Json) → Nat
  | [] => 0
  | (_, value) :: rest => max (depth value) (depthOfMembers rest)

end

mutual

/-- Whether every string in a value has a text and every number is finite. -/
def isReadable : Json → Bool
  | .unreadable => false
  | .real x => x.isFinite
  | .int i => (Float.ofInt i).isFinite
  | .arr items => itemsReadable items
  | .obj members => membersReadable members
  | _ => true

def itemsReadable : List Json → Bool
  | [] => true
  | item :: rest => isReadable item && itemsReadable rest

def membersReadable : List (String × Json) → Bool
  | [] => true
  | (_, value) :: rest => isReadable value && membersReadable rest

end

/-- A tagged choice has to be read as a whole before its case is known: everything in it has to be
readable, and nested less than 128 deep, `enclosing` levels around it included. -/
def isHeld (enclosing : Nat) (j : Json) : Bool := isReadable j && enclosing + depth j < 128

/-- The tag of a tagged choice and the record of its fields. -/
def tagged? (tag : String) : Json → Option (Json × Json)
  | .obj members =>
    match members.filter fun (name, _) => name = tag with
    | [(_, chosen)] => some (chosen, .obj (members.filter fun (name, _) => name ≠ tag))
    | _ => none
  | .arr (chosen :: fields) => some (chosen, .arr fields)
  | _ => none

end LoadTest.Json
