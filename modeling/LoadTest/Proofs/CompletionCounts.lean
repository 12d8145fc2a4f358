import LoadTest.Throughput
import Mathlib.Algebra.BigOperators.Group.Finset.Basic
import Mathlib.Algebra.Order.Ring.Nat
import Mathlib.Data.List.Perm.Basic

/-!
# Counting completions

The windows of the throughput are filled one completion at a time, and empty ones are added as they
are needed. Whatever the order of the completions, every window up to the last one used ends up with
the number of those that fall into it.
-/

namespace LoadTest.Proofs

variable {numbers : List ℕ} {windows : ℕ}

/-- How many of some completions fall into each of the first windows. -/
def countsByWindow (numbers : List ℕ) (windows : ℕ) : List ℕ :=
  (List.range windows).map fun i => numbers.count i

/-- The windows up to the last one used, of which there are some to begin with. -/
def windowsUpTo (windows : ℕ) (numbers : List ℕ) : ℕ :=
  numbers.foldl (fun n i => max n (i + 1)) windows

@[simp] lemma length_countsByWindow (numbers : List ℕ) (windows : ℕ) :
    (countsByWindow numbers windows).length = windows := by
  simp [countsByWindow]

lemma count_eq_zero_of_forall_lt (h : ∀ i ∈ numbers, i < windows) {i : ℕ} (hi : windows ≤ i) :
    numbers.count i = 0 := by
  apply List.count_eq_zero_of_not_mem
  intro hmem
  exact absurd (h i hmem) (Nat.not_lt.2 hi)

/-- The windows that are added are those without completions. -/
lemma countsByWindow_append_zeros (h : ∀ i ∈ numbers, i < windows) (n : ℕ) :
    countsByWindow numbers windows ++ List.replicate (n - windows) 0 =
      countsByWindow numbers (max windows n) := by
  apply List.ext_getElem
  · simp
    omega
  · intro i hi _
    simp only [List.getElem_append, length_countsByWindow]
    split
    · simp [countsByWindow]
    · next hout =>
      simp [countsByWindow, count_eq_zero_of_forall_lt h (Nat.not_lt.1 hout)]

lemma recordCompletion_countsByWindow (h : ∀ i ∈ numbers, i < windows) (number : ℕ) :
    ThroughputStats.recordCompletion (countsByWindow numbers windows).toArray number =
      .ok (countsByWindow (numbers ++ [number]) (max windows (number + 1))).toArray := by
  have hgrown : (countsByWindow numbers windows).toArray ++ Array.replicate (number + 1 - windows) 0 =
      (countsByWindow numbers (max windows (number + 1))).toArray := by
    rw [← countsByWindow_append_zeros h, ← List.toArray_replicate, List.append_toArray]
  have hplace : (countsByWindow numbers (max windows (number + 1)))[number]? =
      some (numbers.count number) := by
    simp [countsByWindow]
  have hcounted : (countsByWindow numbers (max windows (number + 1))).set number
      (numbers.count number + 1) =
        countsByWindow (numbers ++ [number]) (max windows (number + 1)) := by
    apply List.ext_getElem
    · simp
    · intro i _ _
      simp only [List.getElem_set, countsByWindow, List.getElem_map, List.getElem_range,
        List.count_append, List.count_singleton, beq_iff_eq]
      grind
  unfold ThroughputStats.recordCompletion
  dsimp only
  rw [List.size_toArray, length_countsByWindow, hgrown, List.getElem?_toArray, hplace]
  dsimp only
  rw [List.setIfInBounds_toArray, hcounted]

/-- What the windows hold after some completions, if they held the counts of earlier ones. -/
lemma foldlM_recordCompletion (rest : List ℕ) (h : ∀ i ∈ numbers, i < windows) :
    rest.foldlM ThroughputStats.recordCompletion (countsByWindow numbers windows).toArray =
      .ok (countsByWindow (numbers ++ rest) (windowsUpTo windows rest)).toArray := by
  induction rest generalizing numbers windows with
  | nil => simp [windowsUpTo, pure, Except.pure]
  | cons number rest ih =>
    have hnext : ∀ i ∈ numbers ++ [number], i < max windows (number + 1) := by
      intro i hi
      obtain hi | hi := List.mem_append.1 hi
      · exact lt_of_lt_of_le (h i hi) (le_max_left _ _)
      · rw [List.mem_singleton.1 hi]
        exact lt_of_lt_of_le (Nat.lt_succ_self number) (le_max_right _ _)
    rw [List.foldlM_cons, recordCompletion_countsByWindow h]
    change rest.foldlM ThroughputStats.recordCompletion _ = _
    rw [ih hnext, List.append_assoc]
    rfl

theorem completions_counted (numbers : List ℕ) :
    numbers.foldlM ThroughputStats.recordCompletion #[] =
      .ok (countsByWindow numbers (windowsUpTo 0 numbers)).toArray := by
  have hnone : ∀ i ∈ ([] : List ℕ), i < 0 := List.forall_mem_nil _
  exact foldlM_recordCompletion numbers hnone

lemma windowsUpTo_succ (last : ℕ) (numbers : List ℕ) :
    windowsUpTo (last + 1) numbers = numbers.foldl max last + 1 := by
  unfold windowsUpTo
  induction numbers generalizing last with
  | nil => rfl
  | cons i rest ih =>
    rw [List.foldl_cons, List.foldl_cons, Nat.add_max_add_right]
    exact ih (max last i)

lemma windowsUpTo_zero (hne : numbers ≠ []) :
    windowsUpTo 0 numbers = numbers.foldl max 0 + 1 := by
  cases numbers with
  | nil => exact absurd rfl hne
  | cons i rest =>
    rw [List.foldl_cons, Nat.zero_max, ← windowsUpTo_succ]
    rfl

lemma foldl_max_mem (hne : numbers ≠ []) :
    numbers.foldl max 0 ∈ numbers ∧ ∀ i ∈ numbers, i ≤ numbers.foldl max 0 := by
  cases numbers with
  | nil => exact absurd rfl hne
  | cons i rest =>
    rw [List.foldl_cons, Nat.zero_max]
    exact List.max?_eq_some_iff.1 List.max?_cons'

/-- No completion is lost if there is a window for each. -/
lemma sum_countsByWindow (h : ∀ i ∈ numbers, i < windows) :
    (countsByWindow numbers windows).sum = numbers.length := by
  have hinside : ∀ i ∈ (numbers : Multiset ℕ), i ∈ Finset.range windows := fun i hi =>
    Finset.mem_range.2 (h i (Multiset.mem_coe.1 hi))
  have hcard := Multiset.sum_count_eq_card hinside
  simp only [Multiset.coe_count, Multiset.coe_card] at hcard
  exact hcard

/-- The windows hold the same whatever the order of the completions. -/
lemma countsByWindow_eq_of_perm {numbers' : List ℕ} (h : numbers.Perm numbers') :
    countsByWindow numbers (windowsUpTo 0 numbers) =
      countsByWindow numbers' (windowsUpTo 0 numbers') := by
  have hwindows : windowsUpTo 0 numbers = windowsUpTo 0 numbers' := by
    obtain rfl | hne := eq_or_ne numbers []
    · rw [List.nil_perm.1 h]
    · have hne' : numbers' ≠ [] := fun hnil => hne (List.perm_nil.1 (hnil ▸ h))
      have hlast : numbers.foldl max 0 = numbers'.foldl max 0 := h.foldl_op_eq
      rw [windowsUpTo_zero hne, windowsUpTo_zero hne', hlast]
  unfold countsByWindow
  rw [hwindows]
  exact List.map_congr_left fun i _ => h.count_eq i

end LoadTest.Proofs
