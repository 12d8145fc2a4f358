/-!
# JSON values

Members of an object keep their order and may repeat a name; which names count is for the reader
of a record to say.
-/

namespace LoadTest

inductive Json where
  | null
  | bool (value : Bool)
  /-- A number written without point and exponent. -/
  | int (value : Int)
  /-- Any other number, infinite if it lies beyond the floats. -/
  | real (value : Float)
  | str (value : String)
  /-- A string, or an object with a member name, that holds half of a surrogate pair: it is well
  formed and can be skipped, but it has no text. -/
  | unreadable
  | arr (items : List Json)
  | obj (members : List (String × Json))
  deriving Inhabited

namespace Json

/-- A count as a number. -/
def nat (n : Nat) : Json := .int n

/-- A float as a number; JSON has none that is infinite or undefined, and `null` stands for them. -/
def ofFloat (x : Float) : Json := if x.isFinite then .real x else .null

def ofOption {α : Type} (encode : α → Json) : Option α → Json
  | some a => encode a
  | none => .null

def ofList {α : Type} (encode : α → Json) (items : List α) : Json := .arr (items.map encode)

/-- The first member of an object with the given name. -/
def get? (j : Json) (name : String) : Option Json :=
  match j with
  | .obj members => members.lookup name
  | _ => none

end Json

end LoadTest
