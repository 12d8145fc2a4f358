import LoadTest.Number.Literal
import LoadTest.Record
import LoadTest.Yaml.Node

/-!
# Records in YAML

A record is a mapping, or a blank node, which has no members. What a scalar means depends on its
style and on what is wanted: only a plain one holds a number or a truth value, and any one is a text.
-/

namespace LoadTest.Yaml

/-- A node of a document. -/
structure View where
  document : Document
  node : Node

namespace View

/-- The node that is meant: that of the anchor, if it is a reference. -/
def target (v : View) : Node :=
  match v.node with
  | .reference anchor => (v.document.anchored.lookup anchor).getD .blank
  | n => n

def text? (v : View) : Option String :=
  match v.target with
  | .scalar _ _ text => some text
  | _ => none

/-- The text of a scalar that may hold a value of the type with the given tag: it is plain, or a
block with that tag which keeps its line ends. -/
def bare? (type : String) (v : View) : Option String :=
  match v.target with
  | .scalar _ .plain text => some text
  | .scalar (some tag) .literal text => if tag = "tag:yaml.org,2002:" ++ type then some text else none
  | _ => none

end View

/-! ### Scalars -/

/-- Digits of a base, at least one. -/
def digitsIn? (base : Nat) (cs : List Char) : Option Nat := do
  if cs.isEmpty then none
  let values ← cs.mapM RunId.hexValue?
  if values.all (· < base) then some (values.foldl (fun n v => n * base + v) 0) else none

/-- A numeral with a plus sign or none, in base ten or with the mark of its base. Zeros may not
precede other decimal digits. -/
def natural? (text : String) : Option Nat :=
  let unsigned := match text.toList with
    | '+' :: rest => rest
    | cs => cs
  match unsigned with
  | '0' :: 'x' :: digits => digitsIn? 16 digits
  | '0' :: 'o' :: digits => digitsIn? 8 digits
  | '0' :: 'b' :: digits => digitsIn? 2 digits
  | '0' :: _ :: _ => none
  | digits => digitsIn? 10 digits

/-- A count below `2 ^ 64`. -/
def wordOf? (text : String) : Option Nat :=
  (natural? text).bind fun n => if n < wordLimit then some n else none

/-- The names of floats that have no numeral. -/
def namedFloats : List (String × Float) :=
  let infinity : List String := [".inf", ".Inf", ".INF"]
  let undefined : List String := [".nan", ".NaN", ".NAN"]
  infinity.map (·, Decimal.infinity) ++ infinity.map ("+" ++ ·, Decimal.infinity) ++
    infinity.map ("-" ++ ·, -Decimal.infinity) ++
    undefined.map (·, Float.ofBits 0x7ff8000000000000)

/-- A numeral with at most one sign that is finite, or one of the names. -/
def floatOf? (text : String) : Option Float :=
  match namedFloats.lookup text with
  | some x => some x
  | none => match parseFloat text with
    | .ok x => if x.isFinite then some x else none
    | .error _ => none

def boolOf? (text : String) : Option Bool :=
  if ["true", "True", "TRUE"].contains text then some true
  else if ["false", "False", "FALSE"].contains text then some false
  else none

/-! ### Records -/

namespace View

def word? (v : View) : Option Nat := (v.bare? "int").bind wordOf?

def float? (v : View) : Option Float := (v.bare? "float").bind floatOf?

def bool? (v : View) : Option Bool := (v.bare? "bool").bind boolOf?

/-- Whether a plain scalar says that there is no value. A tag other than that of null makes it a
value. -/
def isNull (v : View) : Bool :=
  let isWord (text : String) := ["null", "Null", "NULL", "~"].contains text
  match v.target with
  | .scalar none .plain text => text.isEmpty || isWord text
  | .scalar (some tag) .plain text => tag = "tag:yaml.org,2002:null" && isWord text
  | _ => false

/-- The members of a mapping whose keys are scalars. -/
def members? (v : View) (members : List (Node × Node)) : Option (List (String × View)) :=
  members.mapM fun (k, n) => do
    let key ← ({ v with node := k } : View).text?
    return (key, { v with node := n })

def slots? (names : List String) (v : View) : Option (List (Slot View)) :=
  match v.target with
  | .mapping members => (v.members? members).bind (Slot.ofMembers? names)
  | .scalar none .plain "" => some (names.map fun _ => .missing)
  | _ => none

end View

namespace Document

def dialect : Dialect View where
  word? := View.word?
  float? := View.float?
  bool? := View.bool?
  text? := View.text?
  isNull := View.isNull
  slots? := View.slots?

def view (d : Document) : View := { document := d, node := d.root }

end Document

end LoadTest.Yaml
