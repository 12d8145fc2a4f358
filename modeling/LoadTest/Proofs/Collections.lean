import LoadTest.Fault
import LoadTest.Tally
import Mathlib.Data.List.Forall2
import Mathlib.Tactic.Lemma

/-!
# Lists of computations and maps from names

A list of computations gives a list of results, one for each. A map from names is known by what it
holds under each name, and a tally by how often each text occurs.
-/

namespace LoadTest.Proofs

section Computations

variable {ε α β : Type} {f : α → Except ε β}

lemma exists_bind_eq_ok {x : Except ε α} {a : α} (hx : x = .ok a) (hf : ∃ b, f a = .ok b) :
    ∃ b, x >>= f = .ok b := by
  obtain ⟨b, hb⟩ := hf
  exact ⟨b, bind_eq_ok.2 ⟨a, hx, hb⟩⟩

lemma bind_eq_error {x : Except ε α} {e : ε} :
    x >>= f = .error e ↔ x = .error e ∨ ∃ a, x = .ok a ∧ f a = .error e := by
  cases x <;> simp [bind, Except.bind]

lemma map_eq_ok {x : Except ε α} {g : α → β} {b : β} :
    x.map g = .ok b ↔ ∃ a, x = .ok a ∧ b = g a := by
  cases x <;> simp [Except.map, eq_comm]

lemma map_eq_error {x : Except ε α} {g : α → β} {e : ε} :
    x.map g = .error e ↔ x = .error e := by
  cases x <;> simp [Except.map]

lemma exists_forall₂ {R : α → β → Prop} {l : List α} (h : ∀ a ∈ l, ∃ b, R a b) :
    ∃ l', List.Forall₂ R l l' := by
  induction l with
  | nil => exact ⟨[], .nil⟩
  | cons a l ih =>
    obtain ⟨b, hb⟩ := h a List.mem_cons_self
    obtain ⟨l', hl'⟩ := ih fun a' ha' => h a' (List.mem_cons_of_mem _ ha')
    exact ⟨b :: l', .cons hb hl'⟩

lemma filterMap_eq_of_forall₂ {g : α → Option β} {l : List α} {l' : List β}
    (h : List.Forall₂ (fun a b => g a = some b) l l') : l.filterMap g = l' := by
  induction h with
  | nil => rfl
  | cons hhead _ ih => rw [List.filterMap_cons_some hhead, ih]

lemma mapM_eq_some_of_forall₂ {g : α → Option β} {l : List α} {l' : List β}
    (h : List.Forall₂ (fun a b => g a = some b) l l') : l.mapM g = some l' := by
  induction h with
  | nil => rfl
  | cons hhead _ ih =>
    rw [List.mapM_cons, hhead, ih]
    rfl

lemma mapM_eq_ok {l : List α} {results : List β} :
    l.mapM f = .ok results ↔ List.Forall₂ (fun a b => f a = .ok b) l results := by
  induction l generalizing results with
  | nil =>
    rw [List.forall₂_nil_left_iff]
    exact ⟨fun h => by cases h; rfl, fun h => by rw [h]; rfl⟩
  | cons a l ih =>
    rw [List.mapM_cons, bind_eq_ok, List.forall₂_cons_left_iff]
    constructor
    · rintro ⟨b, hb, h⟩
      obtain ⟨rest, hrest, h⟩ := bind_eq_ok.1 h
      cases h
      exact ⟨b, rest, hb, ih.1 hrest, rfl⟩
    · rintro ⟨b, rest, hb, hrest, rfl⟩
      exact ⟨b, hb, bind_eq_ok.2 ⟨rest, ih.2 hrest, rfl⟩⟩

lemma exists_of_mem_mapM {l : List α} {results : List β} {b : β} (h : l.mapM f = .ok results)
    (hb : b ∈ results) : ∃ a ∈ l, f a = .ok b := by
  rw [mapM_eq_ok] at h
  induction h with
  | nil => cases hb
  | cons hhead _ ih =>
    obtain rfl | hb := List.mem_cons.1 hb
    · exact ⟨_, List.mem_cons_self, hhead⟩
    · obtain ⟨a, ha, hfa⟩ := ih hb
      exact ⟨a, List.mem_cons_of_mem _ ha, hfa⟩

/-- A list of computations that all give a result gives their results. -/
lemma exists_mapM_eq_ok {l : List α} (h : ∀ a ∈ l, ∃ b, f a = .ok b) :
    ∃ results, l.mapM f = .ok results := by
  induction l with
  | nil => exact ⟨[], rfl⟩
  | cons a l ih =>
    obtain ⟨b, hb⟩ := h a List.mem_cons_self
    obtain ⟨rest, hrest⟩ := ih fun c hc => h c (List.mem_cons_of_mem _ hc)
    exact ⟨b :: rest, mapM_eq_ok.2 (.cons hb (mapM_eq_ok.1 hrest))⟩

/-- Computations that can only fail in one way fail together if one of them does. -/
lemma mapM_ite {p : α → Prop} [DecidablePred p] (fault : ε) (g : α → β) (l : List α) :
    l.mapM (fun a => if p a then Except.error fault else .ok (g a)) =
      if ∃ a ∈ l, p a then .error fault else .ok (l.map g) := by
  induction l with
  | nil => simp; rfl
  | cons a l ih =>
    have hsplit : (∃ b ∈ a :: l, p b) ↔ p a ∨ ∃ b ∈ l, p b := by simp
    rw [List.mapM_cons, ih]
    by_cases ha : p a
    · rw [if_pos ha, if_pos (hsplit.2 (.inl ha))]
      rfl
    · rw [if_neg ha]
      by_cases hl : ∃ b ∈ l, p b
      · rw [if_pos hl, if_pos (hsplit.2 (.inr hl))]
        rfl
      · rw [if_neg hl, if_neg (mt hsplit.1 (not_or.2 ⟨ha, hl⟩))]
        rfl

lemma checkedWord_eq_ok {m n : Nat} : checkedWord m = .ok n ↔ m < wordLimit ∧ m = n := by
  unfold checkedWord
  by_cases h : m < wordLimit <;> simp [h]

end Computations

section Maps

variable {β : Type}

lemma lookup_cons_eq (key first : String) (v : β) (l : List (String × β)) :
    ((first, v) :: l).lookup key = if key = first then some v else l.lookup key := by
  rw [List.lookup_cons]
  by_cases h : key = first
  · rw [if_pos h, beq_iff_eq.2 h]
  · rw [if_neg h, beq_eq_false_iff_ne.2 h]

lemma lookup_eq_none_of_lt {name : String} {l : List (String × β)} (h : ∀ e ∈ l, name < e.1) :
    l.lookup name = none := by
  rw [List.lookup_eq_none_iff]
  intro e he
  have hne : name ≠ e.1 := fun heq => String.lt_irrefl _ (heq ▸ h e he)
  simpa using hne

lemma lookup_alterList {name key : String} {f : Option β → β} {l : List (String × β)}
    (h : l.Pairwise fun a b => a.1 < b.1) :
    (NameMap.alterList name f l).lookup key =
      if key = name then some (f (l.lookup name)) else l.lookup key := by
  induction l with
  | nil => exact lookup_cons_eq ..
  | cons head rest ih =>
    obtain ⟨first, v⟩ := head
    obtain ⟨hfirst, hrest⟩ := List.pairwise_cons.1 h
    unfold NameMap.alterList
    by_cases hlt : name < first
    · -- The name comes before all others, so that nothing was held under it.
      have hnone : ((first, v) :: rest).lookup name = none := by
        refine lookup_eq_none_of_lt fun e he => ?_
        obtain rfl | he := List.mem_cons.1 he
        · exact hlt
        · exact String.lt_trans hlt (hfirst e he)
      rw [if_pos hlt, hnone, lookup_cons_eq]
    · rw [if_neg hlt]
      by_cases hname : name = first
      · subst hname
        rw [if_pos rfl, lookup_cons_eq, lookup_cons_eq, lookup_cons_eq, if_pos rfl]
        by_cases hkey : key = name <;> simp [hkey]
      · rw [if_neg hname, lookup_cons_eq, lookup_cons_eq, lookup_cons_eq, ih hrest, if_neg hname]
        by_cases hkey : key = first
        · rw [if_pos hkey, if_neg (hkey ▸ Ne.symm hname), if_pos hkey]
        · simp [hkey]

@[simp] lemma get?_empty (name : String) : (NameMap.empty : NameMap β).get? name = none := rfl

lemma get?_alter (m : NameMap β) (name key : String) (f : Option β → β) :
    (m.alter name f).get? key = if key = name then some (f (m.get? name)) else m.get? key :=
  lookup_alterList m.ascending

lemma get?_insert (m : NameMap β) (name key : String) (value : β) :
    (m.insert name value).get? key = if key = name then some value else m.get? key :=
  get?_alter m name key _

lemma lookup_filter (name key : String) (l : List (String × β)) :
    (l.filter fun e => e.1 ≠ name).lookup key = if key = name then none else l.lookup key := by
  induction l with
  | nil => simp
  | cons head rest ih =>
    obtain ⟨first, v⟩ := head
    by_cases hfirst : first = name
    · rw [List.filter_cons_of_neg (by simpa using hfirst), ih, lookup_cons_eq]
      by_cases hkey : key = name <;> simp [hkey, hfirst]
    · rw [List.filter_cons_of_pos (by simpa using hfirst), lookup_cons_eq, lookup_cons_eq, ih]
      by_cases hkey : key = first
      · rw [if_pos hkey, if_neg (hkey ▸ hfirst), if_pos hkey]
      · simp [hkey]

lemma get?_erase (m : NameMap β) (name key : String) :
    (m.erase name).get? key = if key = name then none else m.get? key :=
  lookup_filter name key m.entries

end Maps

section Tallies

lemma get?_foldl_add (texts : List String) (t : Tally) (text : String) :
    (texts.foldl Tally.add t).get? text =
      if texts.count text = 0 then t.get? text
      else some ((t.get? text).getD 0 + texts.count text) := by
  induction texts generalizing t with
  | nil => simp
  | cons first rest ih =>
    rw [List.foldl_cons, ih, Tally.add, get?_alter, List.count_cons]
    by_cases htext : text = first
    · subst htext
      by_cases hzero : rest.count text = 0 <;> simp [hzero]
      omega
    · have hne : (first == text) = false := by simpa using fun h => htext h.symm
      simp [htext, hne]

/-- A tally holds each text that occurs, with the number of times that it does. -/
lemma get?_ofTexts (texts : List String) (text : String) :
    (Tally.ofTexts texts).get? text =
      if texts.count text = 0 then none else some (texts.count text) := by
  rw [Tally.ofTexts, get?_foldl_add]
  simp

end Tallies

end LoadTest.Proofs
