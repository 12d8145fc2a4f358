import LoadTest.Json.Record
import LoadTest.NameMap

/-!
# Tallies

How often each of some texts occurs.
-/

namespace LoadTest

/-- The counts of texts. -/
abbrev Tally := NameMap Nat

namespace Tally

/-- Counts one more occurrence of a text. -/
def add (t : Tally) (text : String) : Tally := NameMap.alter t text fun n => n.getD 0 + 1

def ofTexts (texts : List String) : Tally := texts.foldl add NameMap.empty

def toJson (t : Tally) : Json := .obj (t.entries.map fun (text, n) => (text, .nat n))

/-- Of a repeated text the last count holds. -/
def ofJson? : Json → Option Tally
  | .obj members => members.foldlM (fun (t : Tally) (text, value) =>
      (value.word?).map (NameMap.insert t text)) NameMap.empty
  | _ => none

end Tally

end LoadTest
