/-!
# Maps from names

A finite map from names, kept as a list that ascends by name, so that equal maps are equal lists.
-/

namespace LoadTest

/-- A finite map from names to values. -/
structure NameMap (β : Type) where
  entries : List (String × β)
  ascending : entries.Pairwise fun a b => a.1 < b.1

namespace NameMap

variable {β : Type}

def empty : NameMap β := ⟨[], .nil⟩

instance : Inhabited (NameMap β) := ⟨empty⟩

instance [DecidableEq β] : DecidableEq (NameMap β) := fun a b =>
  decidable_of_iff (a.entries = b.entries) (by cases a; cases b; simp)

/-- Puts `f` of the old value, if any, at `name`. -/
def alterList (name : String) (f : Option β → β) : List (String × β) → List (String × β)
  | [] => [(name, f none)]
  | (key, v) :: rest =>
    if name < key then (name, f none) :: (key, v) :: rest
    else if name = key then (key, f (some v)) :: rest
    else (key, v) :: alterList name f rest

theorem fst_mem_alterList {name : String} {f : Option β → β} {l : List (String × β)}
    {e : String × β} (h : e ∈ alterList name f l) : e.1 = name ∨ ∃ e' ∈ l, e'.1 = e.1 := by
  induction l with
  | nil => simp_all [alterList]
  | cons head rest ih =>
    obtain ⟨key, v⟩ := head
    simp only [alterList] at h
    split at h
    · rcases List.mem_cons.1 h with rfl | h
      · exact .inl rfl
      · exact .inr ⟨e, h, rfl⟩
    · split at h
      · rcases List.mem_cons.1 h with rfl | h
        · exact .inr ⟨(key, v), by simp, rfl⟩
        · exact .inr ⟨e, by simp [h], rfl⟩
      · rcases List.mem_cons.1 h with rfl | h
        · exact .inr ⟨(key, v), by simp, rfl⟩
        · rcases ih h with h | ⟨e', he', h⟩
          · exact .inl h
          · exact .inr ⟨e', by simp [he'], h⟩

theorem ascending_alterList {name : String} {f : Option β → β} {l : List (String × β)}
    (h : l.Pairwise fun a b => a.1 < b.1) :
    (alterList name f l).Pairwise fun a b => a.1 < b.1 := by
  induction l with
  | nil => simp [alterList]
  | cons head rest ih =>
    obtain ⟨key, v⟩ := head
    obtain ⟨hkey, hrest⟩ := List.pairwise_cons.1 h
    simp only [alterList]
    split
    · next hlt =>
      refine List.pairwise_cons.2 ⟨fun e he => ?_, h⟩
      rcases List.mem_cons.1 he with rfl | he
      · exact hlt
      · exact String.lt_trans hlt (hkey e he)
    · split
      · exact List.pairwise_cons.2 ⟨hkey, hrest⟩
      · next hlt hne =>
        refine List.pairwise_cons.2 ⟨fun e he => ?_, ih hrest⟩
        rcases fst_mem_alterList he with h | ⟨e', he', h⟩
        · rw [h]
          refine Decidable.byContradiction fun hgt => hne ?_
          exact String.le_antisymm (String.not_lt.1 hgt) (String.not_lt.1 hlt)
        · rw [← h]
          exact hkey e' he'

/-- Puts `f` of the old value, if any, at `name`. -/
def alter (m : NameMap β) (name : String) (f : Option β → β) : NameMap β :=
  ⟨alterList name f m.entries, ascending_alterList m.ascending⟩

def insert (m : NameMap β) (name : String) (value : β) : NameMap β := m.alter name fun _ => value

def erase (m : NameMap β) (name : String) : NameMap β :=
  ⟨m.entries.filter fun e => e.1 ≠ name, m.ascending.filter _⟩

def get? (m : NameMap β) (name : String) : Option β := m.entries.lookup name

def contains (m : NameMap β) (name : String) : Bool := (m.get? name).isSome

end NameMap

end LoadTest
