import LoadTest.Analysis.Baseline
import LoadTest.Proofs.Collections
import Mathlib.Data.List.Induction
import Mathlib.Data.List.Nodup
import Mathlib.Data.String.Basic

/-!
# The store of baselines

Whatever is done to a store, it holds under each name the baseline that was last written there,
unless it has been removed or the store has been cleared since. What it holds stands in no particular
order, and may be rearranged between any two actions; its names are nevertheless listed in ascending
order. There are two ways to write, one that only puts a baseline and one that looks first whether
there is one to replace; they leave the same store.
-/

namespace LoadTest.Proofs

/-! ### What a store holds -/

section Stores

variable {s s' : BaselineStore} {name : String} {b : Baseline}

lemma get?_eq_some : s.get? name = some b ↔ (name, b) ∈ s.entries := by
  unfold BaselineStore.get?
  rw [List.lookup_eq_some_iff]
  constructor
  · rintro ⟨before, after, hentries, -⟩
    rw [hentries]
    exact List.mem_append_right _ List.mem_cons_self
  · intro h
    obtain ⟨before, after, hentries⟩ := List.append_of_mem h
    have hdistinct := s.distinct
    rw [hentries, List.map_append, List.nodup_append] at hdistinct
    refine ⟨before, after, hentries, fun e he => ?_⟩
    rw [bne_iff_ne]
    exact (hdistinct.2.2 e.1 (List.mem_map_of_mem he) name List.mem_cons_self).symm

lemma get?_eq_of_perm (h : s.entries.Perm s'.entries) (name : String) :
    s.get? name = s'.get? name := by
  apply Option.ext
  intro b
  rw [get?_eq_some, get?_eq_some, h.mem_iff]

lemma get?_put (s : BaselineStore) (name key : String) (b : Baseline) :
    (s.put name b).get? key = if key = name then some b else s.get? key := by
  unfold BaselineStore.put BaselineStore.get?
  dsimp only
  induction s.entries with
  | nil => exact lookup_cons_eq ..
  | cons head rest ih =>
    obtain ⟨first, held⟩ := head
    unfold BaselineStore.putList
    by_cases hfirst : first = name
    · subst hfirst
      rw [if_pos rfl, lookup_cons_eq, lookup_cons_eq]
      by_cases hkey : key = first <;> simp [hkey]
    · rw [if_neg hfirst, lookup_cons_eq, lookup_cons_eq, ih]
      by_cases hkey : key = first
      · rw [if_pos hkey, if_pos hkey, if_neg (hkey ▸ hfirst)]
      · rw [if_neg hkey, if_neg hkey]

lemma get?_remove (s : BaselineStore) (name key : String) :
    (s.remove name).2.get? key = if key = name then none else s.get? key :=
  lookup_filter name key s.entries

/-- Only one entry has a name, so that nothing but it is replaced. -/
lemma putList_eq_map {l : List (String × Baseline)} (hdistinct : (l.map Prod.fst).Nodup)
    (hheld : name ∈ l.map Prod.fst) (b : Baseline) :
    BaselineStore.putList name b l = l.map fun e => if e.1 = name then (e.1, b) else e := by
  induction l with
  | nil => cases hheld
  | cons head rest ih =>
    obtain ⟨first, held⟩ := head
    obtain ⟨hnew, hrest⟩ := List.nodup_cons.1 hdistinct
    unfold BaselineStore.putList
    rw [List.map_cons]
    by_cases hfirst : first = name
    · subst hfirst
      have hothers : ∀ e ∈ rest, (if e.1 = first then (e.1, b) else e) = id e := by
        intro e he
        have hmem : e.1 ∈ rest.map Prod.fst := List.mem_map_of_mem he
        refine if_neg fun heq : e.1 = first => hnew ?_
        rwa [heq] at hmem
      rw [if_pos rfl, if_pos rfl, List.map_congr_left hothers, List.map_id]
    · have hlater : name ∈ rest.map Prod.fst :=
        (List.mem_cons.1 hheld).resolve_left (Ne.symm hfirst)
      rw [if_neg hfirst, if_neg hfirst, ih hrest hlater]

/-- The two ways to write a baseline leave the same store. -/
lemma upsert_eq_insert (s : BaselineStore) (b : Baseline) : s.upsert b = (b, (s.insert b).2) := by
  unfold BaselineStore.upsert BaselineStore.insert
  split
  · next held hheld =>
    have hname : b.name ∈ s.entries.map Prod.fst := List.mem_map_of_mem (get?_eq_some.1 hheld)
    unfold BaselineStore.replace BaselineStore.put
    simp only [putList_eq_map s.distinct hname]
  · rfl

lemma get?_upsert (s : BaselineStore) (b : Baseline) (name : String) :
    (s.upsert b).2.get? name = if name = b.name then some b else s.get? name := by
  rw [upsert_eq_insert]
  exact get?_put ..

lemma mem_names : name ∈ s.names ↔ s.contains name = true := by
  unfold BaselineStore.names BaselineStore.contains BaselineStore.get?
  rw [List.mem_mergeSort, List.lookup_isSome_iff, List.mem_map]
  refine exists_congr fun e => and_congr_right fun _ => ?_
  rw [beq_iff_eq, eq_comm]

lemma names_nodup (s : BaselineStore) : s.names.Nodup :=
  (List.mergeSort_perm _ _).nodup_iff.2 s.distinct

lemma names_ascending (s : BaselineStore) : s.names.Pairwise (· < ·) := by
  have hsorted : s.names.Pairwise fun a b => decide (a ≤ b) = true := by
    apply List.pairwise_mergeSort
    · intro a b c hab hbc
      exact decide_eq_true (String.le_trans (of_decide_eq_true hab) (of_decide_eq_true hbc))
    · intro a b
      rw [Bool.or_eq_true]
      exact (String.le_total a b).imp decide_eq_true decide_eq_true
  refine (hsorted.and (names_nodup s)).imp ?_
  rintro a b ⟨hle, hne⟩
  exact lt_of_le_of_ne (of_decide_eq_true hle) hne

lemma length_names (s : BaselineStore) : s.names.length = s.size :=
  (List.length_mergeSort _).trans (List.length_map _)

end Stores

/-! ### What is done to a store -/

inductive StoreAction where
  | insert (b : Baseline)
  | upsert (b : Baseline)
  | remove (name : String)
  | clear

namespace StoreAction

def apply (s : BaselineStore) : StoreAction → BaselineStore
  | .insert b => (s.insert b).2
  | .upsert b => (s.upsert b).2
  | .remove name => (s.remove name).2
  | .clear => s.clear

def written? : StoreAction → Option Baseline
  | .insert b | .upsert b => some b
  | .remove _ | .clear => none

/-- Whether an action writes or drops what is held under a name. -/
def concerns (name : String) : StoreAction → Prop
  | .insert b | .upsert b => b.name = name
  | .remove removed => removed = name
  | .clear => True

end StoreAction

/-- The stores that some actions on an empty one may leave; what they hold can be rearranged at any
time. -/
inductive Stored : List StoreAction → BaselineStore → Prop where
  | empty : Stored [] .empty
  | act {actions : List StoreAction} {s : BaselineStore} (a : StoreAction) :
      Stored actions s → Stored (actions ++ [a]) (a.apply s)
  | rearranged {actions : List StoreAction} {s s' : BaselineStore} :
      Stored actions s → s.entries.Perm s'.entries → Stored actions s'

/-- Some actions write a baseline under a name, and no later one of them concerns that name. -/
def LastWritten (actions : List StoreAction) (name : String) (b : Baseline) : Prop :=
  ∃ before write after, actions = before ++ write :: after ∧ write.written? = some b ∧
    b.name = name ∧ ∀ a ∈ after, ¬a.concerns name

section Actions

variable {actions : List StoreAction} {a : StoreAction} {s : BaselineStore} {name : String}
  {b : Baseline}

lemma get?_apply_of_concerns (s : BaselineStore) (h : a.concerns name) :
    (a.apply s).get? name = a.written? := by
  cases a with
  | insert b => exact (get?_put ..).trans (if_pos h.symm)
  | upsert b => exact (get?_upsert ..).trans (if_pos h.symm)
  | remove removed => exact (get?_remove ..).trans (if_pos h.symm)
  | clear => rfl

lemma get?_apply_of_not_concerns (s : BaselineStore) (h : ¬a.concerns name) :
    (a.apply s).get? name = s.get? name := by
  cases a with
  | insert b => exact (get?_put ..).trans (if_neg (Ne.symm h))
  | upsert b => exact (get?_upsert ..).trans (if_neg (Ne.symm h))
  | remove removed => exact (get?_remove ..).trans (if_neg (Ne.symm h))
  | clear => exact absurd trivial h

/-- An action that writes a baseline concerns the name of that baseline only. -/
lemma concerns_iff_of_written (h : a.written? = some b) : a.concerns name ↔ b.name = name := by
  cases a with
  | insert | upsert =>
    cases h
    exact Iff.rfl
  | remove | clear => cases h

lemma lastWritten_append : LastWritten (actions ++ [a]) name b ↔
    (a.written? = some b ∧ b.name = name) ∨ (¬a.concerns name ∧ LastWritten actions name b) := by
  constructor
  · rintro ⟨before, write, after, hsplit, hwritten, hname, hafter⟩
    obtain rfl | ⟨after, last, rfl⟩ := List.eq_nil_or_concat after
    · obtain ⟨-, rfl⟩ := List.append_singleton_inj.1 hsplit
      exact .inl ⟨hwritten, hname⟩
    · rw [List.concat_eq_append] at hsplit hafter
      rw [← List.cons_append, ← List.append_assoc, List.append_singleton_inj] at hsplit
      obtain ⟨rfl, rfl⟩ := hsplit
      exact .inr ⟨hafter a (by simp), before, write, after, rfl, hwritten, hname,
        fun a' ha' => hafter a' (by simp [ha'])⟩
  · rintro (⟨hwritten, hname⟩ | ⟨hother, before, write, after, rfl, hwritten, hname, hafter⟩)
    · exact ⟨actions, a, [], rfl, hwritten, hname, List.forall_mem_nil _⟩
    · refine ⟨before, write, after ++ [a], by simp, hwritten, hname, fun a' ha' => ?_⟩
      obtain ha' | ha' := List.mem_append.1 ha'
      · exact hafter a' ha'
      · exact List.mem_singleton.1 ha' ▸ hother

lemma not_lastWritten_nil : ¬LastWritten [] name b := by
  rintro ⟨before, write, after, hsplit, -⟩
  simp at hsplit

/-- What an action concerns it decides, and everything else it leaves as it was. -/
lemma get?_stored (h : Stored actions s) : s.get? name = some b ↔ LastWritten actions name b := by
  induction h with
  | empty => exact iff_of_false (by rintro ⟨⟩) not_lastWritten_nil
  | @act actions s a _ ih =>
    rw [lastWritten_append]
    by_cases hname : a.concerns name
    · rw [get?_apply_of_concerns s hname, or_iff_left fun hlater => hlater.1 hname]
      exact (and_iff_left_of_imp fun hwritten => (concerns_iff_of_written hwritten).1 hname).symm
    · rw [get?_apply_of_not_concerns s hname, ih, and_iff_right hname]
      exact (or_iff_right fun hwrite => hname ((concerns_iff_of_written hwrite.1).2 hwrite.2)).symm
  | rearranged _ hperm ih => rw [← get?_eq_of_perm hperm, ih]

lemma stored_foldl (actions : List StoreAction) :
    Stored actions (actions.foldl StoreAction.apply .empty) := by
  induction actions using List.reverseRecOn with
  | nil => exact .empty
  | append_singleton actions a ih =>
    rw [List.foldl_concat]
    exact .act a ih

lemma LastWritten.name_eq (h : LastWritten actions name b) : b.name = name := by
  obtain ⟨-, -, -, -, -, hname, -⟩ := h
  exact hname

end Actions

/-- A store holds exactly what some relation gives, with each baseline under its own name, and lists
the names that it holds one under. -/
structure HoldsExactly (s : BaselineStore) (given : String → Baseline → Prop) : Prop where
  filed : ∀ e ∈ s.entries, e.2.name = e.1
  get : ∀ name b, s.get? name = some b ↔ given name b
  contains : ∀ name, s.contains name = true ↔ ∃ b, given name b
  ascending : s.names.Pairwise (· < ·)
  nodup : s.names.Nodup
  listed : ∀ name, name ∈ s.names ↔ s.contains name = true
  counted : s.names.length = s.size

lemma holdsExactly_of_stored {actions : List StoreAction} {s : BaselineStore}
    (h : Stored actions s) : HoldsExactly s (LastWritten actions) where
  filed _ he := ((get?_stored h).1 (get?_eq_some.2 he)).name_eq
  get _ _ := get?_stored h
  contains name := by
    rw [BaselineStore.contains, Option.isSome_iff_exists]
    exact exists_congr fun b => get?_stored h
  ascending := names_ascending s
  nodup := names_nodup s
  listed _ := mem_names
  counted := length_names s

/-- A store is a finite map from names. After any actions, however its entries have been arranged in
between, it holds under each name what was written there last, under its own name, unless that has
been dropped since, and its names are listed in ascending order. A baseline that is inserted next
gives back the one that it replaces, and it leaves the same store whichever way it is written, in
which it is held. -/
theorem store_holds_last_written (actions : List StoreAction) :
    Stored actions (actions.foldl StoreAction.apply .empty) ∧
    ∀ s, Stored actions s → HoldsExactly s (LastWritten actions) ∧
      ∀ b, (∀ old, (s.insert b).1 = some old ↔ LastWritten actions b.name old) ∧
        (s.insert b).2 = (s.upsert b).2 ∧
        (s.upsert b).2.get? b.name = some (s.upsert b).1 := by
  refine ⟨stored_foldl actions, fun s hs => ⟨holdsExactly_of_stored hs, fun b => ?_⟩⟩
  refine ⟨fun old => get?_stored hs, ?_, ?_⟩
  · rw [upsert_eq_insert]
  · rw [get?_upsert, if_pos rfl, upsert_eq_insert]

/-- A baseline without measurements. -/
def bareBaseline (name version : String) : Baseline :=
  { name, version, createdAt := .epoch, measurements := ⟨[], [], []⟩ }

/-- Two names are written, the later one in the alphabet first and twice, and a third is dropped. -/
def nightlyActions : List StoreAction :=
  [.insert (bareBaseline "nightly" "1"), .upsert (bareBaseline "main" "1"),
   .insert (bareBaseline "old" "1"), .upsert (bareBaseline "nightly" "2"), .remove "old"]

/-- What they leave, in either arrangement. -/
def nightlyStore (mainFirst : Bool) : BaselineStore :=
  let nightly := ("nightly", bareBaseline "nightly" "2")
  let main := ("main", bareBaseline "main" "1")
  if mainFirst then ⟨[main, nightly], by decide⟩ else ⟨[nightly, main], by decide⟩

theorem store_holds_last_written_nightly :
    ∀ mainFirst, Stored nightlyActions (nightlyStore mainFirst) ∧
      (nightlyStore mainFirst).names = ["main", "nightly"] ∧
      (nightlyStore mainFirst).get? "nightly" = some (bareBaseline "nightly" "2") ∧
      (nightlyStore mainFirst).contains "old" = false ∧
      ((nightlyStore mainFirst).insert (bareBaseline "nightly" "3")).1 =
        some (bareBaseline "nightly" "2") ∧
      LastWritten nightlyActions "nightly" (bareBaseline "nightly" "2") := by
  obtain ⟨hstored, hholds⟩ := store_holds_last_written nightlyActions
  intro mainFirst
  have hstored : Stored nightlyActions (nightlyStore mainFirst) := by
    refine .rearranged hstored ?_
    cases mainFirst with
    | false => exact .refl _
    | true => exact .swap ..
  obtain ⟨hexact, -⟩ := hholds _ hstored
  have hget : (nightlyStore mainFirst).get? "nightly" = some (bareBaseline "nightly" "2") := by
    cases mainFirst <;> rfl
  have hnames : (nightlyStore mainFirst).names.Perm ["main", "nightly"] := by
    refine (List.mergeSort_perm _ _).trans ?_
    cases mainFirst with
    | false => exact .swap ..
    | true => exact .refl _
  refine ⟨hstored, ?_, hget, ?_, hget, (hexact.get _ _).1 hget⟩
  · exact hnames.eq_of_pairwise (fun a b _ _ hab hba => absurd hab (String.lt_asymm hba))
      hexact.ascending (by decide)
  · cases mainFirst <;> rfl

end LoadTest.Proofs
