import LoadTest.Run.Basic
import Mathlib.Data.List.Basic

/-!
# Traces of runs

What the trace of a run tells: the requests that were started, in the measured part and in bursts,
and what holds of each entry in view of the entries before it.
-/

namespace LoadTest.Proofs

section Throughout

variable {α : Type} {P : List α → α → Prop}

/-- Each entry of a list stands in the relation `P` to the entries before it. -/
def Throughout (P : List α → α → Prop) (l : List α) : Prop :=
  ∀ before a after, l = before ++ a :: after → P before a

@[simp] lemma throughout_nil : Throughout P [] := by
  intro before a after h
  simp at h

lemma throughout_append {l m : List α} :
    Throughout P (l ++ m) ↔ Throughout P l ∧ Throughout (fun before => P (l ++ before)) m := by
  constructor
  · intro h
    refine ⟨fun before a after hl => ?_, fun before a after hm => ?_⟩
    · exact h before a (after ++ m) (by simp [hl])
    · exact h (l ++ before) a after (by simp [hm])
  · rintro ⟨hl, hm⟩ before a after h
    rcases List.append_eq_append_iff.1 h with ⟨middle, rfl, hsplit⟩ | ⟨middle, rfl, hsplit⟩
    · exact hm middle a after hsplit
    · cases middle with
      | nil => simpa using hm [] a after (by simpa using hsplit.symm)
      | cons b middle =>
        obtain ⟨rfl, -⟩ := List.cons_eq_cons.1 hsplit
        exact hl before a middle rfl

@[simp] lemma throughout_cons {a : α} {l : List α} :
    Throughout P (a :: l) ↔ P [] a ∧ Throughout (fun before => P (a :: before)) l := by
  constructor
  · intro h
    exact ⟨h [] a l rfl, fun before b after hl => h (a :: before) b after (by simp [hl])⟩
  · rintro ⟨ha, hl⟩ before b after h
    cases before with
    | nil =>
      cases h
      exact ha
    | cons c before =>
      cases h
      exact hl before b after rfl

end Throughout

/-! ### Requests -/

/-- The number of a request that was started in a phase of which `counts` holds. -/
def startedId? (counts : Phase → Bool) : Note → Option Nat
  | .issued phase id _ => if counts phase then some id else none
  | _ => none

/-- The requests of the measured part, in the order in which they were started. -/
def measuredIds (trace : List Note) : List Nat := trace.filterMap (startedId? Phase.isMeasured)

/-- The requests of bursts, in the order in which they were started. -/
def burstIds (trace : List Note) : List Nat :=
  trace.filterMap (startedId? fun phase => !phase.isMeasured)

@[simp] lemma measuredIds_append (a b : List Note) :
    measuredIds (a ++ b) = measuredIds a ++ measuredIds b := List.filterMap_append ..

@[simp] lemma burstIds_append (a b : List Note) :
    burstIds (a ++ b) = burstIds a ++ burstIds b := List.filterMap_append ..

lemma measuredIds_issued {phase : Phase} (h : phase.isMeasured = true) (id time : Nat) :
    measuredIds [.issued phase id time] = [id] ∧ burstIds [.issued phase id time] = [] := by
  simp [measuredIds, burstIds, startedId?, h]

lemma burstIds_issued {phase : Phase} (h : phase.isMeasured = false) (id time : Nat) :
    measuredIds [.issued phase id time] = [] ∧ burstIds [.issued phase id time] = [id] := by
  simp [measuredIds, burstIds, startedId?, h]

lemma ids_of_not_issued {notes : List Note}
    (h : ∀ phase id time, Note.issued phase id time ∉ notes) :
    measuredIds notes = [] ∧ burstIds notes = [] := by
  have hnone : ∀ counts, ∀ n ∈ notes, startedId? counts n = none := by
    intro counts n hn
    cases n with
    | issued => exact (h _ _ _ hn).elim
    | _ => rfl
  exact ⟨List.filterMap_eq_nil_iff.2 (hnone _), List.filterMap_eq_nil_iff.2 (hnone _)⟩

end LoadTest.Proofs
