import LoadTest.Request
import Mathlib.Tactic.Ring

/-!
# The times of an outcome

An outcome holds the start and the end of a request and its duration, and the end is derived from
the other two. So the duration can be read off the two times, with two exceptions. A duration beyond
`Timestamp.longestStep` is counted as none, so that such a request ends when it starts. A request
that starts in a leap second and outlasts it is a second longer than its times tell, unless it ends
at a later time of day.
-/

namespace LoadTest.Proofs

/-- Nanoseconds since the epoch, with a leap second counted like the second before it. -/
def plainNanos (t : Timestamp) : ℤ :=
  if t.isLeap then t.toNanos - 1000000000 else t.toNanos

/-- A leap second that some time lies in lasts for `n` more nanoseconds. -/
def Lingers (t : Timestamp) (n : ℕ) : Prop := t.isLeap = true ∧ t.nanos + n < 2000000000

/-- The time some nanoseconds after `t` can be represented. -/
def EndsInRange (t : Timestamp) (n : ℕ) : Prop :=
  Lingers t n ∨ plainNanos t + n < (lastSecond + 1) * 1000000000

/-- The difference of two times counts the leap second that the first of them may lie in. -/
def CountsLeap (start finish : Timestamp) : Prop :=
  start.isLeap = true → finish.isLeap = true ∨ start.secondOfDay < finish.secondOfDay

section Later

variable {t t' : Timestamp} {n : ℕ}

lemma isLeap_iff : t.isLeap = true ↔ 1000000000 ≤ t.nanos := decide_eq_true_iff

lemma toNanos_ofNanos? {n : ℤ} (h : Timestamp.ofNanos? n = some t) :
    t.toNanos = n ∧ t.isLeap = false := by
  unfold Timestamp.ofNanos? Timestamp.ofParts? at h
  split at h
  · cases h
    unfold Timestamp.toNanos Timestamp.isLeap
    refine ⟨?_, decide_eq_false ?_⟩
    · dsimp only
      omega
    · dsimp only
      omega
  · cases h

lemma exists_ofNanos? {n : ℤ} : (∃ t, Timestamp.ofNanos? n = some t) ↔
    firstSecond * 1000000000 ≤ n ∧ n < (lastSecond + 1) * 1000000000 := by
  have hseconds : firstSecond * 1000000000 ≤ n ∧ n < (lastSecond + 1) * 1000000000 ↔
      firstSecond ≤ n / 1000000000 ∧ n / 1000000000 ≤ lastSecond ∧
        ((n % 1000000000).toNat < 1000000000 ∨
          (n % 1000000000).toNat < 2000000000 ∧ n / 1000000000 % 60 = 59) := by omega
  rw [hseconds]
  unfold Timestamp.ofNanos? Timestamp.ofParts?
  simp

lemma later?_of_lingers (h : Lingers t n) :
    ∃ t', t.later? n = some t' ∧ t'.seconds = t.seconds ∧ t'.nanos = t.nanos + n := by
  obtain ⟨hleap, hroom⟩ := h
  have hnanos := isLeap_iff.1 hleap
  obtain ⟨hfirst, hlast, hvalid⟩ := t.valid
  unfold Timestamp.later? Timestamp.ofParts?
  rw [if_pos hleap, if_pos hroom, dif_pos ⟨hfirst, hlast, by omega⟩]
  exact ⟨_, rfl, rfl, rfl⟩

lemma later?_of_not_lingers (h : ¬Lingers t n) :
    t.later? n = Timestamp.ofNanos? (plainNanos t + n) := by
  unfold Timestamp.later? plainNanos
  by_cases hleap : t.isLeap = true
  · rw [if_pos hleap, if_neg fun hroom => h ⟨hleap, hroom⟩, if_pos hleap]
  · rw [if_neg hleap, if_neg hleap]

lemma exists_later? : (∃ t', t.later? n = some t') ↔ EndsInRange t n := by
  by_cases h : Lingers t n
  · obtain ⟨t', hlater, -⟩ := later?_of_lingers h
    exact ⟨fun _ => .inl h, fun _ => ⟨t', hlater⟩⟩
  · obtain ⟨hfirst, -, -⟩ := t.valid
    have hstart : firstSecond * 1000000000 ≤ plainNanos t + n := by
      unfold plainNanos Timestamp.toNanos
      split
      · next hleap =>
        have hnanos := isLeap_iff.1 hleap
        omega
      · omega
    rw [later?_of_not_lingers h, exists_ofNanos?, EndsInRange, or_iff_right h, and_iff_right hstart]

/-- A time that is derived lies as far from the one it is derived from as it is later, unless a leap
second is left out. -/
lemma nanosSince_later (h : t.later? n = some t') : t'.nanosSince t = n ↔ CountsLeap t t' := by
  by_cases hlingers : Lingers t n
  · obtain ⟨later, hlater, hseconds, hnanos⟩ := later?_of_lingers hlingers
    obtain rfl : later = t' := Option.some.inj (hlater.symm.trans h)
    have hleap : later.isLeap = true := by
      have hstart := isLeap_iff.1 hlingers.1
      exact isLeap_iff.2 (by omega)
    have hday : later.secondOfDay = t.secondOfDay := congrArg (· % 86400) hseconds
    have hspan : later.nanosSince t = n := by
      simp only [Timestamp.nanosSince, hday, lt_irrefl, decide_false, Bool.and_false,
        Bool.false_eq_true, if_false, Timestamp.toNanos, hseconds, hnanos]
      push_cast
      ring
    exact ⟨fun _ _ => .inl hleap, fun _ => hspan⟩
  · rw [later?_of_not_lingers hlingers] at h
    obtain ⟨hnanos, hplain⟩ := toNanos_ofNanos? h
    unfold plainNanos at hnanos
    by_cases hleap : t.isLeap = true
    · -- The leap second is over, so it is missing from the count of nanoseconds.
      rw [if_pos hleap] at hnanos
      unfold CountsLeap Timestamp.nanosSince
      by_cases hday : t.secondOfDay < t'.secondOfDay
      · simp only [hleap, hplain, hday, hnanos, decide_true, Bool.and_self, if_true, or_true,
          implies_true, iff_true]
        ring
      · simp only [hleap, hplain, hday, hnanos, decide_false, Bool.and_false, Bool.false_and,
          Bool.false_eq_true, if_false, or_self, imp_false, not_true, iff_false]
        omega
    · rw [if_neg hleap] at hnanos
      simp [CountsLeap, Timestamp.nanosSince, hleap, hplain, hnanos]

end Later

section Settled

variable {id : ℕ} {startedAt endedAt : Timestamp} {duration : Duration}
  {failure : Option RequestFailure} {o : Outcome}

/-- The end of a request is its start if its duration is too long to be added. -/
lemma after_eq_ok : startedAt.after duration = .ok endedAt ↔
    (Timestamp.longestStep < duration.nanos ∧ endedAt = startedAt) ∨
    (duration.nanos ≤ Timestamp.longestStep ∧ startedAt.later? duration.nanos = some endedAt) := by
  unfold Timestamp.after
  by_cases h : duration.nanos ≤ Timestamp.longestStep
  · rw [if_pos h, and_iff_right h, or_iff_right fun hlong => absurd hlong.1 (Nat.not_lt.2 h)]
    cases startedAt.later? duration.nanos <;> simp
  · rw [if_neg h, and_iff_right (Nat.not_le.1 h), or_iff_left fun hshort => h hshort.1]
    simp [eq_comm]

lemma settled_eq_ok (h : Outcome.settled id startedAt duration failure = .ok o) :
    o.startedAt = startedAt ∧ o.duration = duration ∧
      startedAt.after duration = .ok o.endedAt := by
  obtain ⟨endedAt, hended, ho⟩ := bind_eq_ok.1 h
  cases ho
  exact ⟨rfl, rfl, hended⟩

lemma nanosSince_self (t : Timestamp) : t.nanosSince t = 0 := by simp [Timestamp.nanosSince]

lemma longestStep_pos : 0 < Timestamp.longestStep := by decide

lemma exists_settled_iff : (∃ o, Outcome.settled id startedAt duration failure = .ok o) ↔
    Timestamp.longestStep < duration.nanos ∨ EndsInRange startedAt duration.nanos := by
  have hafter : (∃ o, Outcome.settled id startedAt duration failure = .ok o) ↔
      ∃ endedAt, startedAt.after duration = .ok endedAt := by
    constructor
    · rintro ⟨o, ho⟩
      exact ⟨o.endedAt, (settled_eq_ok ho).2.2⟩
    · rintro ⟨endedAt, hended⟩
      exact ⟨_, bind_eq_ok.2 ⟨endedAt, hended, rfl⟩⟩
  simp only [hafter, after_eq_ok, exists_or, exists_and_left, exists_eq, and_true, exists_later?]
  by_cases hlong : Timestamp.longestStep < duration.nanos
  · exact iff_of_true (.inl hlong) (.inl hlong)
  · rw [or_iff_right hlong, or_iff_right hlong, and_iff_right (Nat.not_lt.1 hlong)]

lemma nanosSince_settled (h : Outcome.settled id startedAt duration failure = .ok o) :
    o.endedAt.nanosSince o.startedAt = o.duration.nanos ↔
      duration.nanos ≤ Timestamp.longestStep ∧ CountsLeap startedAt o.endedAt := by
  obtain ⟨hstart, hduration, hafter⟩ := settled_eq_ok h
  rw [hstart, hduration]
  obtain ⟨hlong, hended⟩ | ⟨hshort, hlater⟩ := after_eq_ok.1 hafter
  · -- Such a duration is not zero, yet no time passes.
    rw [hended, nanosSince_self]
    have hpos := longestStep_pos
    constructor
    · intro hzero
      omega
    · rintro ⟨hshort, -⟩
      omega
  · rw [nanosSince_later hlater, and_iff_right hshort]

end Settled

/-- A request that settles has an outcome exactly if its end can be represented or its duration is
too long to be added. The times of an outcome tell its duration, to the nanosecond, exactly if that
duration could be added and no leap second is left out; outside leap seconds the first is all that
is needed. -/
theorem times_tell_duration_iff (id : ℕ) (startedAt : Timestamp) (duration : Duration)
    (failure : Option RequestFailure) :
    ((∃ o, Outcome.settled id startedAt duration failure = .ok o) ↔
      Timestamp.longestStep < duration.nanos ∨ EndsInRange startedAt duration.nanos) ∧
    ∀ o, Outcome.settled id startedAt duration failure = .ok o →
      o.startedAt = startedAt ∧ o.duration = duration ∧
      (o.endedAt.nanosSince o.startedAt = o.duration.nanos ↔
        duration.nanos ≤ Timestamp.longestStep ∧ CountsLeap startedAt o.endedAt) ∧
      (startedAt.isLeap = false → (o.endedAt.nanosSince o.startedAt = o.duration.nanos ↔
        duration.nanos ≤ Timestamp.longestStep)) := by
  refine ⟨exists_settled_iff, fun o ho => ?_⟩
  obtain ⟨hstart, hduration, -⟩ := settled_eq_ok ho
  have hagree := nanosSince_settled ho
  refine ⟨hstart, hduration, hagree, fun hplain => hagree.trans (and_iff_left ?_)⟩
  intro hleap
  rw [hplain] at hleap
  cases hleap

theorem times_tell_duration_iff_short :
    ∃ o, Outcome.settled 1 .epoch ⟨1234567000, by decide⟩ none = .ok o ∧
      o.endedAt.nanosSince o.startedAt = 1234567000 := by
  obtain ⟨hexists, hagree⟩ := times_tell_duration_iff 1 .epoch ⟨1234567000, by decide⟩ none
  obtain ⟨o, ho⟩ := hexists.2 (.inr (.inr (by decide)))
  obtain ⟨-, hduration, -, hplain⟩ := hagree o ho
  rw [hduration] at hplain
  exact ⟨o, ho, (hplain rfl).2 (by decide)⟩

/-- The longest duration is lost, and so is the rest of a leap second at the end of a day. -/
theorem times_belie_duration :
    (∃ o, Outcome.settled 1 .epoch ⟨18446744073709551615999999999, by decide⟩ none = .ok o ∧
      o.endedAt = o.startedAt ∧ o.endedAt.nanosSince o.startedAt ≠ o.duration.nanos) ∧
    ∃ o, Outcome.settled 1 ⟨86399, 1500000000, by decide⟩ ⟨1000000000, by decide⟩ none = .ok o ∧
      o.endedAt.nanosSince o.startedAt = 0 ∧ o.duration.nanos = 1000000000 := by
  exact ⟨⟨_, rfl, rfl, by decide⟩, _, rfl, by decide, rfl⟩

end LoadTest.Proofs
