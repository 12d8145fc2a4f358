import LoadTest.Analysis.Measurements

/-!
# Baselines

A baseline is a named reference point that later measurements are compared with. A store holds one
baseline under each name; the last one written holds.
-/

namespace LoadTest

structure Baseline where
  name : String
  version : String
  createdAt : Timestamp
  measurements : Measurements
  deriving Inhabited

namespace Baseline

def toJson (b : Baseline) : Json :=
  .obj
    [("name", .str b.name),
     ("version", .str b.version),
     ("created_at", .ofTimestamp b.createdAt),
     ("measurements", b.measurements.toJson)]

def ofJson? (j : Json) : Option Baseline := do
  let [name, version, createdAt, measurements] ←
    Json.slots? ["name", "version", "created_at", "measurements"] j | none
  return {
    name := ← name.required Json.text?
    version := ← version.required Json.text?
    createdAt := ← createdAt.required Json.timestamp?
    measurements := ← measurements.required Measurements.ofJson? }

end Baseline

/-- Baselines by name, one for each and in no particular order. -/
structure BaselineStore where
  entries : List (String × Baseline)
  distinct : (entries.map Prod.fst).Nodup

namespace BaselineStore

def empty : BaselineStore := ⟨[], List.nodup_nil⟩

instance : Inhabited BaselineStore := ⟨empty⟩

/-- Puts a baseline in the place of the one at `name`, or behind all others. -/
def putList (name : String) (b : Baseline) : List (String × Baseline) → List (String × Baseline)
  | [] => [(name, b)]
  | (key, held) :: rest =>
    if key = name then (key, b) :: rest else (key, held) :: putList name b rest

theorem putList_names (name : String) (b : Baseline) (l : List (String × Baseline)) :
    (putList name b l).map Prod.fst =
      if name ∈ l.map Prod.fst then l.map Prod.fst else l.map Prod.fst ++ [name] := by
  induction l with
  | nil => rfl
  | cons head rest ih =>
    obtain ⟨key, held⟩ := head
    by_cases hkey : key = name
    · simp [putList, hkey]
    · simp only [putList, if_neg hkey, List.map_cons, ih, List.mem_cons, Ne.symm hkey, false_or]
      split <;> rfl

def put (s : BaselineStore) (name : String) (b : Baseline) : BaselineStore where
  entries := putList name b s.entries
  distinct := by
    rw [putList_names]
    split
    · exact s.distinct
    · next hnew =>
      refine List.nodup_append.2 ⟨s.distinct, List.pairwise_singleton .., fun a ha c hc => ?_⟩
      rintro rfl
      exact hnew (List.mem_singleton.1 hc ▸ ha)

def get? (s : BaselineStore) (name : String) : Option Baseline := s.entries.lookup name

/-- Puts a baseline in the place of the one at `name`, if there is one. -/
def replace (s : BaselineStore) (name : String) (b : Baseline) : BaselineStore where
  entries := s.entries.map fun e => if e.1 = name then (e.1, b) else e
  distinct := by
    have hname : ∀ e : String × Baseline, (if e.1 = name then (e.1, b) else e).1 = e.1 := by
      intro e
      split <;> rfl
    simpa only [List.map_map, Function.comp_def, hname] using s.distinct

/-- Stores a baseline and gives the one that it replaces. -/
def insert (s : BaselineStore) (b : Baseline) : Option Baseline × BaselineStore :=
  (s.get? b.name, s.put b.name b)

/-- Stores a baseline and gives it back. One of the same name is replaced where it stands. -/
def upsert (s : BaselineStore) (b : Baseline) : Baseline × BaselineStore :=
  match s.get? b.name with
  | some _ => (b, s.replace b.name b)
  | none => (b, s.put b.name b)

/-- Drops a baseline and gives it back. -/
def remove (s : BaselineStore) (name : String) : Option Baseline × BaselineStore :=
  (s.get? name,
   { entries := s.entries.filter fun e => e.1 ≠ name
     distinct := s.distinct.sublist (List.filter_sublist.map _) })

def contains (s : BaselineStore) (name : String) : Bool := (s.get? name).isSome

/-- The names under which there is a baseline, in ascending order. -/
def names (s : BaselineStore) : List String := (s.entries.map Prod.fst).mergeSort

def size (s : BaselineStore) : Nat := s.entries.length

def isEmpty (s : BaselineStore) : Bool := s.entries.isEmpty

def clear (_ : BaselineStore) : BaselineStore := empty

end BaselineStore

end LoadTest
