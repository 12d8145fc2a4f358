import Mathlib.Data.Set.Card
import LoadTest.Proofs.ArrivalIntervals

/-!
# Accounting for arrivals

While a run holds a level at a rate, requests arrive at a fixed interval, but the run reads its
clock only when it is woken. `Course` follows such a run one action at a time and keeps an account of
the arrivals: when each of them was due, at which reading of the clock it was handled, and the run
before and after. However late the run is woken, every arrival that is due by a reading of the clock
has then been handled, once and not before it was due. It is skipped only if the cap on requests in
flight is reached. The next level that is held goes on from there.
-/

namespace LoadTest.Proofs

/-! ### The account of a hold -/

section Account

/-- An arrival as a run handled it. -/
structure Arrival where
  due : ℕ
  /-- The reading of the clock at which it was handled. -/
  handledAt : ℕ
  before : Run
  after : Run

namespace Arrival

def Issued (e : Arrival) : Prop :=
  e.after.runner.nextId = e.before.runner.nextId + 1 ∧
    e.after.runner.skipped = e.before.runner.skipped

def Skipped (e : Arrival) : Prop :=
  e.after.runner.nextId = e.before.runner.nextId ∧
    e.after.runner.skipped = e.before.runner.skipped + 1

/-- A request is started while there is room for it under the cap, and skipped otherwise. -/
def Proper (cap : Option ℕ) (e : Arrival) : Prop :=
  (e.Issued ∧ ∀ most, cap = some most → e.before.runner.inFlight.length < most) ∨
  (e.Skipped ∧ ∃ most, cap = some most ∧ most ≤ e.before.runner.inFlight.length)

end Arrival

/-- A level that is held at a rate, and the arrivals that have been handled meanwhile. -/
structure HoldAccount where
  hold : Hold
  interval : Duration
  /-- When the first arrival is due. -/
  first : ℕ
  /-- The run as it began to hold the level. -/
  opening : Run
  arrivals : List Arrival := []

namespace HoldAccount

def append (a : HoldAccount) (entries : List Arrival) : HoldAccount :=
  { a with arrivals := a.arrivals ++ entries }

/-- When arrival number `k` is due. -/
def dueAt (a : HoldAccount) (k : ℕ) : ℕ := a.first + k * a.interval.nanos

def issued (a : HoldAccount) (r : Run) : ℕ := r.runner.nextId - a.opening.runner.nextId

def skipped (a : HoldAccount) (r : Run) : ℕ := r.runner.skipped - a.opening.runner.skipped

end HoldAccount

def plannedRun (r : Run) (next : ℕ) : Run :=
  { r with runner := { r.runner with nextArrival := some next } }

/-- A run goes on to hold another level: one of the rise, or the full load. -/
inductive Opens (r : Run) (now : ℕ) : Run → Hold → Prop where
  | step (step : RampStep) (deadline : ℕ) :
    Opens r now (r.beginStep step deadline now).1 (r.beginStep step deadline now).2
  | fullLoad (deadline : ℕ) :
    Opens r now (r.beginFullLoad deadline now).1 (r.beginFullLoad deadline now).2

/-- The states of a run at a rate after `origin`, one action after the other: the arrivals of
earlier holds, the account of the present one, the moment at which the next arrival is due, and the
clock. -/
inductive Course (origin : Run) : List Arrival → HoldAccount → ℕ → ℕ → Run → Prop where
  | begin {hold : Hold} {interval : Duration} {first : ℕ} (now : ℕ)
    (hpace : hold.pace = .rate interval) (hpos : 0 < interval.nanos)
    (hfirst : origin.runner.nextArrival = some first) :
    Course origin [] { hold, interval, first, opening := origin } first now origin
  | elapse {earlier : List Arrival} {a : HoldAccount} {next now now' : ℕ} {r : Run}
    (h : Course origin earlier a next now r) (hnow : now ≤ now') :
    Course origin earlier a next now' r
  | handle {earlier : List Arrival} {a : HoldAccount} {next now : ℕ} {r r' : Run}
    (h : Course origin earlier a next now r) (hdue : next ≤ now) (hbefore : next < a.hold.deadline)
    (harrive : r.arrive a.hold.phase now = .ok r') :
    Course origin earlier (a.append [⟨next, now, r, r'⟩]) (next + a.interval.nanos) now r'
  | plan {earlier : List Arrival} {a : HoldAccount} {next now : ℕ} {r : Run}
    (h : Course origin earlier a next now r) : Course origin earlier a next now (plannedRun r next)
  | record {earlier : List Arrival} {a : HoldAccount} {next now : ℕ} {r r' : Run}
    {settled : Option Settlement} (h : Course origin earlier a next now r)
    (hrecord : r.record now settled = .ok r') : Course origin earlier a next now r'
  | reportProgress {earlier : List Arrival} {a : HoldAccount} {next now : ℕ} {r r' : Run}
    {phase : Phase} (h : Course origin earlier a next now r)
    (hreport : r.reportProgress phase now = .ok r') : Course origin earlier a next now r'
  | note {earlier : List Arrival} {a : HoldAccount} {next now : ℕ} {r : Run} (notes : List Note)
    (h : Course origin earlier a next now r) : Course origin earlier a next now (r.note notes)
  | wait {earlier : List Arrival} {a : HoldAccount} {next now : ℕ} {r : Run} (stage : Stage)
    (h : Course origin earlier a next now r) : Course origin earlier a next now { r with stage }
  | goOn {earlier : List Arrival} {a : HoldAccount} {next now : ℕ} {r r' : Run} {hold : Hold}
    {interval : Duration} {first : ℕ} (h : Course origin earlier a next now r)
    (hnext : r.runner.nextArrival = some next) (hopens : Opens r now r' hold)
    (hpace : hold.pace = .rate interval) (hpos : 0 < interval.nanos)
    (hfirst : r'.runner.nextArrival = some first) :
    Course origin (earlier ++ a.arrivals) { hold, interval, first, opening := r' } first now r'

end Account

/-! ### What one action keeps -/

/-- The account agrees with the run. -/
structure Reconciled (origin : Run) (earlier : List Arrival) (a : HoldAccount) (next now : ℕ)
    (r : Run) : Prop where
  interval_pos : 0 < a.interval.nanos
  next_eq : next = a.dueAt a.arrivals.length
  dues : a.arrivals.map Arrival.due = (List.range a.arrivals.length).map a.dueAt
  issued_le : a.opening.runner.nextId ≤ r.runner.nextId
  skipped_le : a.opening.runner.skipped ≤ r.runner.skipped
  counted : r.runner.nextId + r.runner.skipped =
    a.opening.runner.nextId + a.opening.runner.skipped + a.arrivals.length
  total : r.runner.nextId + r.runner.skipped =
    origin.runner.nextId + origin.runner.skipped + (earlier ++ a.arrivals).length
  proper : ∀ e ∈ earlier ++ a.arrivals, e.Proper r.setup.spec.maxInFlight
  in_time : ∀ e ∈ earlier ++ a.arrivals, e.due ≤ e.handledAt ∧ e.handledAt ≤ now
  before_deadline : ∀ e ∈ a.arrivals, e.due < a.hold.deadline
  past : ∀ e ∈ earlier ++ a.arrivals, e.due < next
  once : ((earlier ++ a.arrivals).map Arrival.due).Pairwise (· < ·)

section Steps

variable {origin : Run} {earlier : List Arrival} {a : HoldAccount} {next now : ℕ} {r r' : Run}
  {phase : Phase}

lemma Reconciled.of_kept {now' : ℕ} (h : Reconciled origin earlier a next now r) (hnow : now ≤ now')
    (hsetup : r'.setup = r.setup) (hid : r'.runner.nextId = r.runner.nextId)
    (hskipped : r'.runner.skipped = r.runner.skipped) :
    Reconciled origin earlier a next now' r' where
  interval_pos := h.interval_pos
  next_eq := h.next_eq
  dues := h.dues
  issued_le := hid ▸ h.issued_le
  skipped_le := hskipped ▸ h.skipped_le
  counted := by rw [hid, hskipped, h.counted]
  total := by rw [hid, hskipped, h.total]
  proper := hsetup ▸ h.proper
  in_time := by
    intro e he
    obtain ⟨hdue, hhandled⟩ := h.in_time e he
    exact ⟨hdue, hhandled.trans hnow⟩
  before_deadline := h.before_deadline
  past := h.past
  once := h.once

lemma isFull_iff (runner : Runner) (cap : Option ℕ) :
    runner.isFull cap = true ↔ ∃ most, cap = some most ∧ most ≤ runner.inFlight.length := by
  cases cap <;> simp [Runner.isFull]

lemma arrive_proper (due : ℕ) (h : r.arrive phase now = .ok r') :
    r'.setup = r.setup ∧ Arrival.Proper r.setup.spec.maxInFlight ⟨due, now, r, r'⟩ := by
  obtain ⟨hfull, rfl⟩ | ⟨hroom, -, rfl⟩ := arrive_ok h
  · exact ⟨rfl, .inr ⟨⟨rfl, rfl⟩, (isFull_iff _ _).1 hfull⟩⟩
  · refine ⟨rfl, .inl ⟨⟨rfl, rfl⟩, ?_⟩⟩
    intro most hmost
    by_contra! hle
    have hfull := (isFull_iff r.runner _).2 ⟨most, hmost, hle⟩
    rw [hroom] at hfull
    cases hfull

lemma Reconciled.handle (h : Reconciled origin earlier a next now r) (hdue : next ≤ now)
    (hbefore : next < a.hold.deadline) (harrive : r.arrive phase now = .ok r') :
    Reconciled origin earlier (a.append [⟨next, now, r, r'⟩]) (next + a.interval.nanos) now r' := by
  obtain ⟨hsetup, hproper⟩ := arrive_proper next harrive
  have hpos := h.interval_pos
  have hlast : next + a.interval.nanos = a.dueAt (a.arrivals.length + 1) := by
    rw [h.next_eq, HoldAccount.dueAt, HoldAccount.dueAt, Nat.succ_mul, Nat.add_assoc]
  -- every part of the account grows by the one entry at its end
  have hall {P : Arrival → Prop} (hold : ∀ e ∈ earlier ++ a.arrivals, P e)
      (hnew : P ⟨next, now, r, r'⟩) :
      ∀ e ∈ earlier ++ (a.append [⟨next, now, r, r'⟩]).arrivals, P e := by
    intro e he
    rw [HoldAccount.append, ← List.append_assoc, List.mem_append, List.mem_singleton] at he
    obtain he | rfl := he
    · exact hold e he
    · exact hnew
  have hcounters : r.runner.nextId ≤ r'.runner.nextId ∧ r.runner.skipped ≤ r'.runner.skipped ∧
      r'.runner.nextId + r'.runner.skipped = r.runner.nextId + r.runner.skipped + 1 := by
    obtain ⟨⟨hid, hskipped⟩, -⟩ | ⟨⟨hid, hskipped⟩, -⟩ := hproper
    · dsimp only at hid hskipped
      omega
    · dsimp only at hid hskipped
      omega
  have hlength : (a.append [⟨next, now, r, r'⟩]).arrivals.length = a.arrivals.length + 1 :=
    List.length_append
  constructor
  · exact hpos
  · rw [hlength]
    exact hlast
  · rw [hlength, List.range_succ, List.map_append, HoldAccount.append, List.map_append, h.dues]
    exact congrArg (_ ++ [·]) h.next_eq
  · exact h.issued_le.trans hcounters.1
  · exact h.skipped_le.trans hcounters.2.1
  · have hcounted := h.counted
    change _ = a.opening.runner.nextId + a.opening.runner.skipped + _
    omega
  · have htotal := h.total
    rw [List.length_append] at htotal ⊢
    omega
  · rw [hsetup]
    exact hall h.proper hproper
  · exact hall h.in_time ⟨hdue, le_rfl⟩
  · intro e he
    obtain he | he := List.mem_append.1 he
    · exact h.before_deadline e he
    · rw [List.mem_singleton.1 he]
      exact hbefore
  · apply hall
    · intro e he
      exact (h.past e he).trans (Nat.lt_add_of_pos_right hpos)
    · exact Nat.lt_add_of_pos_right hpos
  · rw [HoldAccount.append, ← List.append_assoc, List.map_append, List.pairwise_append]
    refine ⟨h.once, List.pairwise_singleton .., ?_⟩
    intro due hdue' next' hnext'
    obtain ⟨e, he, rfl⟩ := List.mem_map.1 hdue'
    rw [List.map_singleton, List.mem_singleton] at hnext'
    rw [hnext']
    exact h.past e he

/-- When the first arrival of a hold is due: the next one, unless the hold's own interval is over
before. -/
def firstDue (next : Option ℕ) (now interval : ℕ) : ℕ :=
  match next with
  | some next => min next (now + interval)
  | none => now

lemma beginHold_rate {level : Float} {deadline : ℕ} {interval : Duration}
    (hpace : (r.beginHold phase level deadline now).2.pace = .rate interval) :
    (r.beginHold phase level deadline now).1 =
      plannedRun r (firstDue r.runner.nextArrival now interval.nanos) := by
  unfold Run.beginHold at hpace ⊢
  cases hschedule : r.setup.schedule with
  | concurrency => simp only [hschedule, reduceCtorEq] at hpace
  | rate x =>
    simp only [hschedule, Pace.rate.injEq] at hpace
    simp only [hpace]
    rfl

lemma opens_rate {hold : Hold} {interval : Duration} (h : Opens r now r' hold)
    (hpace : hold.pace = .rate interval) :
    ∃ notes, r' =
      plannedRun (r.note notes) (firstDue r.runner.nextArrival now interval.nanos) := by
  cases h with
  | step step deadline => exact ⟨_, beginHold_rate hpace⟩
  | fullLoad deadline => exact ⟨_, beginHold_rate hpace⟩

lemma Reconciled.goOn {hold : Hold} {interval : Duration} {first : ℕ} (notes : List Note)
    (h : Reconciled origin earlier a next now r) (hpos : 0 < interval.nanos)
    (hfirst : min next (now + interval.nanos) = first) :
    Reconciled origin (earlier ++ a.arrivals)
      { hold, interval, first, opening := plannedRun (r.note notes) first } first now
      (plannedRun (r.note notes) first) where
  interval_pos := hpos
  next_eq := by simp [HoldAccount.dueAt]
  dues := rfl
  issued_le := le_rfl
  skipped_le := le_rfl
  counted := rfl
  total := by
    rw [List.append_nil]
    exact h.total
  proper := by
    rw [List.append_nil]
    exact h.proper
  in_time := by
    rw [List.append_nil]
    exact h.in_time
  before_deadline := List.forall_mem_nil _
  past := by
    rw [List.append_nil, ← hfirst]
    intro e he
    obtain ⟨hdue, hhandled⟩ := h.in_time e he
    exact lt_min (h.past e he) (by omega)
  once := by
    rw [List.append_nil]
    exact h.once

lemma reconciled_of_course (h : Course origin earlier a next now r) :
    Reconciled origin earlier a next now r := by
  induction h with
  | begin now hpace hpos hfirst =>
    have hnone {P : Arrival → Prop} : ∀ e ∈ ([] : List Arrival), P e := List.forall_mem_nil _
    refine ⟨hpos, ?_, rfl, le_rfl, le_rfl, rfl, rfl, hnone, hnone, hnone, hnone, .nil⟩
    simp [HoldAccount.dueAt]
  | elapse _ hnow ih => exact ih.of_kept hnow rfl rfl rfl
  | handle _ hdue hbefore harrive ih => exact ih.handle hdue hbefore harrive
  | record _ hrecord ih =>
    obtain ⟨runner, notes, -, rfl, rfl | ⟨p, -, o, -, rfl⟩⟩ := record_ok hrecord
    · exact ih.of_kept le_rfl rfl rfl rfl
    · exact ih.of_kept le_rfl rfl rfl rfl
  | reportProgress _ hreport ih =>
    obtain ⟨-, rfl⟩ | ⟨-, _, _, -, -, rfl⟩ := reportProgress_ok hreport
    · exact ih
    · exact ih.of_kept le_rfl rfl rfl rfl
  | plan _ ih | note _ _ ih | wait _ _ ih => exact ih.of_kept le_rfl rfl rfl rfl
  | goOn _ hnext hopens hpace hpos hfirst ih =>
    obtain ⟨notes, rfl⟩ := opens_rate hopens hpace
    rw [hnext] at hfirst ⊢
    obtain rfl := Option.some.inj hfirst
    exact ih.goOn notes hpos rfl

end Steps

/-! ### What a reading of the clock leaves behind -/

/-- Every arrival that is due by `now` has been handled. -/
def CaughtUp (origin : Run) (earlier : List Arrival) (a : HoldAccount) (now : ℕ) (r : Run) : Prop :=
  ∃ next, Course origin earlier a next now r ∧ r.runner.nextArrival = some next ∧
    ¬(next ≤ now ∧ next < a.hold.deadline)

/-- The arrivals of a hold that are due by `now`. -/
def HoldAccount.dueBy (a : HoldAccount) (now : ℕ) : Set ℕ :=
  { k | a.dueAt k ≤ now ∧ a.dueAt k < a.hold.deadline }

/-- What the account of a hold tells, once the arrivals due by `now` have been handled. -/
structure Audited (origin : Run) (earlier : List Arrival) (a : HoldAccount) (now : ℕ) (r : Run) :
    Prop where
  /-- As many have been issued or skipped as are due. -/
  count : a.issued r + a.skipped r = (a.dueBy now).ncard
  next : r.runner.nextArrival = some (a.dueAt (a.issued r + a.skipped r))
  /-- They are the first ones of the hold, in order. -/
  dues : a.arrivals.map Arrival.due = (List.range (a.issued r + a.skipped r)).map a.dueAt
  /-- None of them has been handled too early. -/
  in_time : ∀ e ∈ earlier ++ a.arrivals, e.due ≤ e.handledAt ∧ e.handledAt ≤ now
  proper : ∀ e ∈ earlier ++ a.arrivals, e.Proper r.setup.spec.maxInFlight
  /-- None has been handled twice, not in an earlier hold either. -/
  once : ((earlier ++ a.arrivals).map Arrival.due).Pairwise (· < ·)
  /-- All requests that the run issued or skipped since `origin` are in the account. -/
  total : r.runner.nextId + r.runner.skipped =
    origin.runner.nextId + origin.runner.skipped + (earlier ++ a.arrivals).length

section Readings

variable {origin : Run} {earlier : List Arrival} {a : HoldAccount} {next now : ℕ} {r r' : Run}

lemma Reconciled.handled_eq (h : Reconciled origin earlier a next now r) :
    a.issued r + a.skipped r = a.arrivals.length := by
  have hid := h.issued_le
  have hskipped := h.skipped_le
  have hcounted := h.counted
  unfold HoldAccount.issued HoldAccount.skipped
  omega

lemma dueAt_mono (a : HoldAccount) : Monotone a.dueAt := by
  intro k l hkl
  exact Nat.add_le_add_left (Nat.mul_le_mul_right _ hkl) _

/-- What has been handled is what is due: a handled arrival was due at an earlier reading, and the
next one is not due yet. -/
lemma Reconciled.dueBy_eq (h : Reconciled origin earlier a next now r)
    (hnext : ¬(next ≤ now ∧ next < a.hold.deadline)) :
    a.dueBy now = Finset.range a.arrivals.length := by
  ext k
  rw [Finset.coe_range, Set.mem_Iio]
  constructor
  · rintro ⟨hdue, hbefore⟩
    by_contra! hle
    have hmono : next ≤ a.dueAt k := h.next_eq ▸ dueAt_mono a hle
    exact hnext ⟨hmono.trans hdue, hmono.trans_lt hbefore⟩
  · intro hk
    have hmem : a.dueAt k ∈ a.arrivals.map Arrival.due := by
      rw [h.dues]
      exact List.mem_map_of_mem (List.mem_range.2 hk)
    obtain ⟨e, he, hdue⟩ := List.mem_map.1 hmem
    obtain ⟨hin, hhandled⟩ := h.in_time e (List.mem_append_right _ he)
    exact ⟨hdue ▸ hin.trans hhandled, hdue ▸ h.before_deadline e he⟩

lemma CaughtUp.audited (h : CaughtUp origin earlier a now r) : Audited origin earlier a now r := by
  obtain ⟨next, hcourse, hplanned, hnext⟩ := h
  have hreconciled := reconciled_of_course hcourse
  refine ⟨?_, ?_, ?_, hreconciled.in_time, hreconciled.proper, hreconciled.once,
    hreconciled.total⟩
  · rw [hreconciled.handled_eq, hreconciled.dueBy_eq hnext, Set.ncard_coe_finset, Finset.card_range]
  · rw [hreconciled.handled_eq, hplanned, hreconciled.next_eq]
  · rw [hreconciled.handled_eq, hreconciled.dues]

lemma append_append (a : HoldAccount) (l l' : List Arrival) :
    (a.append l).append l' = a.append (l ++ l') := by
  unfold HoldAccount.append
  rw [List.append_assoc]

lemma append_nil (a : HoldAccount) : a.append [] = a := by
  unfold HoldAccount.append
  rw [List.append_nil]

/-- The loop over the arrivals that are due is a part of the course. -/
lemma Course.catchUp {phase : Phase} {interval deadline next' : ℕ}
    (h : Course origin earlier a next now r) (hphase : a.hold.phase = phase)
    (hinterval : a.interval.nanos = interval) (hdeadline : a.hold.deadline = deadline)
    (hr : r.catchUp phase interval deadline now next = .ok (r', next')) :
    ∃ entries, Course origin earlier (a.append entries) next' now r' ∧
      ¬(next' ≤ now ∧ next' < deadline) := by
  fun_induction Run.catchUp r phase interval deadline now next generalizing a with
  | case1 => cases hr
  | case2 r next hdue _ r₁ harrive ih =>
    have hcourse := h.handle hdue.1 (hdeadline ▸ hdue.2) (hphase ▸ harrive)
    rw [hinterval] at hcourse
    obtain ⟨entries, hentries, hnext⟩ := ih hcourse hphase hinterval hdeadline hr
    rw [append_append] at hentries
    exact ⟨_, hentries, hnext⟩
  | case3 => cases hr
  | case4 r next hdue =>
    cases hr
    exact ⟨[], by rwa [append_nil], hdue⟩

lemma Course.pace (h : Course origin earlier a next now r) : a.hold.pace = .rate a.interval := by
  induction h with
  | begin _ hpace => exact hpace
  | goOn _ _ _ hpace => exact hpace
  | handle _ _ _ _ ih => exact ih
  | elapse _ _ ih | plan _ ih | record _ _ ih | reportProgress _ _ ih | note _ _ ih | wait _ _ ih =>
    exact ih

lemma Course.issueDue (h : Course origin earlier a next now r)
    (hnext : r.runner.nextArrival = some next) (hr : r.issueDue a.hold now = .ok r') :
    ∃ entries, CaughtUp origin earlier (a.append entries) now r' := by
  simp only [Run.issueDue, h.pace, hnext, Option.getD_some] at hr
  obtain ⟨⟨r₁, next'⟩, hcatch, hr⟩ := bind_eq_ok.1 hr
  cases hr
  obtain ⟨entries, hcourse, hlast⟩ := h.catchUp rfl rfl rfl hcatch
  exact ⟨entries, next', hcourse.plan, rfl, hlast⟩

lemma nextArrival_record {settled : Option Settlement} (h : r.record now settled = .ok r') :
    r'.runner.nextArrival = r.runner.nextArrival := by
  obtain ⟨runner, notes, -, rfl, rfl | ⟨p, -, o, -, rfl⟩⟩ := record_ok h
  · rfl
  · rfl

lemma nextArrival_reportProgress {phase : Phase} (h : r.reportProgress phase now = .ok r') :
    r'.runner.nextArrival = r.runner.nextArrival := by
  obtain ⟨-, rfl⟩ | ⟨-, _, _, -, -, rfl⟩ := reportProgress_ok h
  · rfl
  · rfl

/-- A run that is woken stays on its course. -/
lemma Course.wake {phase : Phase} {settled : Option Settlement} {r₁ r₂ : Run}
    (h : Course origin earlier a next now r) (hnext : r.runner.nextArrival = some next)
    (hrecord : r.record now settled = .ok r₁) (hreport : r₁.reportProgress phase now = .ok r₂) :
    Course origin earlier a next now r₂ ∧ r₂.runner.nextArrival = some next := by
  refine ⟨(h.record hrecord).reportProgress hreport, ?_⟩
  rw [nextArrival_reportProgress hreport, nextArrival_record hrecord, hnext]

lemma CaughtUp.wait (stage : Stage) (h : CaughtUp origin earlier a now r) :
    CaughtUp origin earlier a now { r with stage } := by
  obtain ⟨next, hcourse, hnext, hlast⟩ := h
  exact ⟨next, hcourse.wait stage, hnext, hlast⟩

end Readings

/-! ### One hold -/

/-- The states in which signals before the deadline leave a run that holds a level, with the reading
of the clock. The run begins in `opening`. -/
inductive Keeps (stage : Stage) (hold : Hold) (opening : Run) : ℕ → Run → Prop where
  | begin {now : ℕ} {r : Run} (hnow : now < hold.deadline)
    (hissue : opening.issueDue hold now = .ok r) : Keeps stage hold opening now { r with stage }
  | wake {now : ℕ} {r r' : Run} {s : Signal} (h : Keeps stage hold opening now r)
    (hnow : now ≤ s.now) (hlasts : s.now < hold.deadline) (hcancelled : s.cancelled = false)
    (hstep : r.step s = .ok r') : Keeps stage hold opening s.now r'

section Hold

variable {stage : Stage} {hold : Hold} {opening r r' : Run} {now : ℕ}

lemma step_hold {s : Signal} (hhold : r.stage.hold? = some hold) (hlasts : s.now < hold.deadline)
    (hcancelled : s.cancelled = false) (hstep : r.step s = .ok r') :
    ∃ r₁ r₂, r.record s.now s.settled = .ok r₁ ∧ r₁.reportProgress hold.phase s.now = .ok r₂ ∧
      r₂.issueDue hold s.now = .ok r' := by
  unfold Run.step at hstep
  cases hstage : r.stage with
  | rampUp | sustained =>
    rw [hstage] at hhold
    cases hhold
    simp only [hstage, hcancelled] at hstep
    obtain ⟨r₁, hrecord, hstep⟩ := bind_eq_ok.1 hstep
    obtain ⟨r₂, hreport, hstep⟩ := bind_eq_ok.1 hstep
    rw [if_neg (not_le.2 hlasts)] at hstep
    exact ⟨r₁, r₂, hrecord, hreport, hstep⟩
  | _ =>
    rw [hstage] at hhold
    cases hhold

lemma keeps_stage (hhold : stage.hold? = some hold) (h : Keeps stage hold opening now r) :
    r.stage = stage := by
  induction h with
  | begin => rfl
  | wake _ _ hlasts hcancelled hstep ih =>
    obtain ⟨r₁, r₂, hrecord, hreport, hissue⟩ := step_hold (ih ▸ hhold) hlasts hcancelled hstep
    rw [(starts_issueDue hissue).stage, (reportProgress_kept hreport).2, (record_kept hrecord).2, ih]

lemma caughtUp_of_keeps {interval : Duration} {first : ℕ} (hhold : stage.hold? = some hold)
    (hpace : hold.pace = .rate interval) (hpos : 0 < interval.nanos)
    (hfirst : opening.runner.nextArrival = some first) (h : Keeps stage hold opening now r) :
    ∃ arrivals, CaughtUp opening [] { hold, interval, first, opening, arrivals } now r := by
  induction h with
  | begin _ hissue =>
    obtain ⟨entries, hcaught⟩ := (Course.begin _ hpace hpos hfirst).issueDue hfirst hissue
    exact ⟨entries, hcaught.wait stage⟩
  | wake hkeeps hnow hlasts hcancelled hstep ih =>
    obtain ⟨arrivals, hcaught⟩ := ih
    obtain ⟨r₁, r₂, hrecord, hreport, hissue⟩ :=
      step_hold (keeps_stage hhold hkeeps ▸ hhold) hlasts hcancelled hstep
    obtain ⟨next, hcourse, hnext, -⟩ := hcaught
    obtain ⟨hcourse, hnext⟩ := (hcourse.elapse hnow).wake hnext hrecord hreport
    obtain ⟨entries, hcaught⟩ := hcourse.issueDue hnext hissue
    exact ⟨arrivals ++ entries, hcaught⟩

end Hold

/-! ### The holds of a run -/

/-- The next hold goes on after the arrivals that have been handled, and waits for its first one no
longer than its own interval. -/
structure GoesOn (origin : Run) (earlier : List Arrival) (a : HoldAccount) (next now : ℕ) (r' : Run)
    (hold : Hold) (interval : Duration) : Prop where
  first : r'.runner.nextArrival = some (min next (now + interval.nanos))
  no_replay : ∀ e ∈ earlier ++ a.arrivals, e.due < min next (now + interval.nanos)
  course : Course origin (earlier ++ a.arrivals)
    { hold, interval, first := min next (now + interval.nanos), opening := r' }
    (min next (now + interval.nanos)) now r'

lemma Course.goesOn {origin : Run} {earlier : List Arrival} {a : HoldAccount} {next now : ℕ}
    {r r' : Run} {hold : Hold} {interval : Duration} (h : Course origin earlier a next now r)
    (hnext : r.runner.nextArrival = some next) (hopens : Opens r now r' hold)
    (hpace : hold.pace = .rate interval) (hpos : 0 < interval.nanos) :
    GoesOn origin earlier a next now r' hold interval := by
  have hfirst : r'.runner.nextArrival = some (min next (now + interval.nanos)) := by
    obtain ⟨notes, rfl⟩ := opens_rate hopens hpace
    rw [hnext]
    rfl
  have hcourse := h.goOn hnext hopens hpace hpos hfirst
  have hpast := (reconciled_of_course hcourse).past
  rw [List.append_nil] at hpast
  exact ⟨hfirst, hpast, hcourse⟩

/-- No request has been issued or skipped. -/
def Unburdened (setup : Setup) (r : Run) : Prop :=
  r.runner.nextId = setup.firstId ∧ r.runner.skipped = 0

/-- The run holds a level or has held it last, and its next arrival is planned. -/
def Underway (setup : Setup) (hold : Hold) (now : ℕ) (r : Run) : Prop :=
  ∃ origin earlier a next, Unburdened setup origin ∧ a.hold = hold ∧
    Course origin earlier a next now r ∧ r.runner.nextArrival = some next

/-- The run is between two holds, or before the first one. -/
def Between (setup : Setup) (now : ℕ) (r : Run) : Prop :=
  (r.runner.nextArrival = none ∧ Unburdened setup r) ∨ ∃ hold, Underway setup hold now r

/-- What a place of its course tells of the arrivals of a run at a rate. -/
def Attends (setup : Setup) (now : ℕ) (r : Run) : Place → Prop
  | .measuring _ | .rising _ _ | .risen => Between setup now r
  | .within stage => ∀ hold, stage.hold? = some hold → Underway setup hold now r
  | _ => True

/-- Whenever the run waits at a level, it has handled what is due. -/
def Abreast (setup : Setup) (now : ℕ) (r : Run) : Prop :=
  ∀ hold, r.stage.hold? = some hold →
    ∃ origin earlier a, Unburdened setup origin ∧ a.hold = hold ∧ CaughtUp origin earlier a now r

section Holds

variable {setup : Setup} {calls now : ℕ} {cancelled : Bool} {r r' : Run} {x : Float}

lemma Between.note (h : Between setup now r) (notes : List Note) :
    Between setup now (r.note notes) := by
  obtain hfresh | ⟨hold, origin, earlier, a, next, horigin, ha, hcourse, hnext⟩ := h
  · exact .inl hfresh
  · exact .inr ⟨hold, origin, earlier, a, next, horigin, ha, hcourse.note notes, hnext⟩

lemma Between.opens {hold : Hold} {interval : Duration} (h : Between setup now r)
    (hopens : Opens r now r' hold) (hpace : hold.pace = .rate interval)
    (hpos : 0 < interval.nanos) : Underway setup hold now r' := by
  obtain ⟨hnone, hfresh⟩ | ⟨hold', origin, earlier, a, next, horigin, -, hcourse, hnext⟩ := h
  · obtain ⟨notes, rfl⟩ := opens_rate hopens hpace
    exact ⟨plannedRun (r.note notes) _, [], _, _, hfresh, rfl, .begin now hpace hpos rfl, rfl⟩
  · have hgoesOn := hcourse.goesOn hnext hopens hpace hpos
    exact ⟨origin, _, _, _, horigin, rfl, hgoesOn.course, hgoesOn.first⟩

lemma abreast_of_unheld (h : r.stage.hold? = none) : Abreast setup now r := by
  intro hold hhold
  rw [h] at hhold
  cases hhold

lemma Underway.issueDue {stage : Stage} {hold : Hold} (h : Underway setup hold now r)
    (hhold : stage.hold? = some hold) (hr : r.issueDue hold now = .ok r') :
    Abreast setup now { r' with stage } := by
  obtain ⟨origin, earlier, a, next, horigin, ha, hcourse, hnext⟩ := h
  obtain ⟨entries, hcaught⟩ := hcourse.issueDue hnext (ha ▸ hr)
  intro hold' hhold'
  obtain rfl : hold = hold' := Option.some.inj (hhold.symm.trans hhold')
  exact ⟨origin, earlier, a.append entries, horigin, ha, hcaught.wait stage⟩

lemma Abreast.underway {hold : Hold} {now' : ℕ} (h : Abreast setup now r)
    (hhold : r.stage.hold? = some hold) (hnow : now ≤ now') : Underway setup hold now' r := by
  obtain ⟨origin, earlier, a, horigin, ha, next, hcourse, hnext, -⟩ := h hold hhold
  exact ⟨origin, earlier, a, next, horigin, ha, hcourse.elapse hnow, hnext⟩

lemma Underway.wake {hold : Hold} {phase : Phase} {settled : Option Settlement} {r₁ r₂ : Run}
    (h : Underway setup hold now r) (hrecord : r.record now settled = .ok r₁)
    (hreport : r₁.reportProgress phase now = .ok r₂) : Underway setup hold now r₂ := by
  obtain ⟨origin, earlier, a, next, horigin, ha, hcourse, hnext⟩ := h
  exact ⟨origin, earlier, a, next, horigin, ha, hcourse.wake hnext hrecord hreport⟩

/-- A run that handles its arrivals at each place of its course has handled what is due when it
waits. -/
lemma abreast_proceeds {place : Place} (hschedule : setup.schedule = .rate x)
    (hpos : ∀ level ∈ plannedLevels setup, 0 < (arrivalInterval level).nanos)
    (h : Proceeds setup now cancelled place r r')
    (hpasses : Passes setup calls place now cancelled r) (hplace : Attends setup now r place) :
    Abreast setup now r' := by
  have hopens {stage : Stage} {hold : Hold} {r r₁ : Run} (hhold : stage.hold? = some hold)
      (hpasses : Passes setup calls (.within stage) now cancelled r₁)
      (hbetween : Between setup now r) (h : Opens r now r₁ hold) :
      Attends setup now r₁ (.within stage) := by
    intro hold' hhold'
    obtain rfl : hold = hold' := Option.some.inj (hhold.symm.trans hhold')
    obtain ⟨interval, hpace, hinterval, -⟩ := hold_catchesUp hschedule hpos hpasses hhold
    exact hbetween.opens h hpace hinterval
  induction h with
  | skipWarmup hcount _ ih => exact ih (hpasses.skipWarmup hcount) trivial
  | beginWarmup hcount _ ih => exact ih (hpasses.beginWarmup hcount) (by rintro _ ⟨⟩)
  | issueBurst hwants _ ih => exact ih (hpasses.issueBurst hwants) (by rintro _ ⟨⟩)
  | endWarmup hphase hwants hpending _ ih =>
    exact ih (hpasses.endWarmup hphase hwants hpending) trivial
  | beginMeasured hsteps _ ih =>
    exact ih (hpasses.beginMeasured hsteps) (.inl (by simp [Unburdened, passes_setup hpasses]))
  | skipRise _ ih => exact ih hpasses.skipRise hplace
  | beginRise hsteps _ ih => exact ih (hpasses.beginRise hsteps) (hplace.note _)
  | beginStep hdeadline _ ih =>
    have hbegun := hpasses.beginStep hdeadline
    exact ih hbegun (hopens rfl hbegun hplace (.step ..))
  | beginSustained hdeadline _ ih =>
    have hbegun := hpasses.beginSustained hdeadline
    exact ih hbegun (hopens rfl hbegun hplace (.fullLoad ..))
  | awaitHold _ hhold _ hdue => exact (hplace _ hhold).issueDue hhold hdue
  | endStep hcancelled hnow _ ih =>
    subst hcancelled
    exact ih (hpasses.endStep hnow) (Between.note (.inr ⟨_, hplace _ rfl⟩) _)
  | endRise _ ih => exact ih hpasses.endRise (hplace.note _)
  | awaitBurst | awaitRampDown => exact abreast_of_unheld rfl
  | complete hcomplete =>
    obtain ⟨report, -, rfl⟩ := complete_ok hcomplete
    exact abreast_of_unheld (by simp [Stage.hold?])
  -- the load is off
  | beginCooldown _ h =>
    exact abreast_of_unheld (hold?_of_unloading (unwinds_proceeds h (by rintro ⟨⟩)).stage)
  | endCooldown _ _ _ h | skipCooldown _ h | beginRampDown _ h | cutRise _ h | endSustained _ _ h
  | cutSustained _ h | endRampDown _ _ h =>
    exact abreast_of_unheld (hold?_of_unloading (unwinds_proceeds h trivial).stage)

lemma abreast_step {s : Signal} (hschedule : setup.schedule = .rate x)
    (hpos : ∀ level ∈ plannedLevels setup, 0 < (arrivalInterval level).nanos)
    (hpasses : Passes setup calls (.within r.stage) s.now s.cancelled r) (h : Abreast setup now r)
    (hnow : now ≤ s.now) (hr : r.step s = .ok r') : Abreast setup s.now r' := by
  obtain rfl := passes_setup hpasses
  cases answers_step hr with
  | idle hstage | finished hstage =>
    apply abreast_of_unheld
    rw [hstage]
    rfl
  | settle hstage _ hproceeds =>
    rw [hstage] at hpasses
    exact abreast_proceeds hschedule hpos hproceeds (hpasses.settleBurst _) (by rintro _ ⟨⟩)
  | cut _ _ hproceeds =>
    exact abreast_proceeds hschedule hpos hproceeds hpasses fun _ hhold => h.underway hhold hnow
  | wake hhold _ hrecord hreport hproceeds =>
    refine abreast_proceeds hschedule hpos hproceeds
      ((hpasses.record (part_of_hold hhold) hrecord).reportProgress hhold hreport) ?_
    exact fun _ hhold => (h.underway hhold hnow).wake hrecord hreport
  | drain hstage hrecord hproceeds =>
    rw [hstage] at hpasses hproceeds
    refine abreast_proceeds hschedule hpos hproceeds (hpasses.record rfl hrecord) ?_
    rintro _ ⟨⟩

lemma abreast_of_reachable (hschedule : setup.schedule = .rate x)
    (hpos : ∀ level ∈ plannedLevels setup, 0 < (arrivalInterval level).nanos)
    (h : Reachable setup calls now cancelled r) : Abreast setup now r := by
  induction h with
  | start hstart =>
    exact abreast_proceeds hschedule hpos (proceeds_start hstart) (.opened _ _) trivial
  | step hreach hnow hcancelled hstep ih =>
    have hpasses := (passes_of_reachable hreach).elapse hnow hcancelled
    exact abreast_step hschedule hpos hpasses ih hnow hstep

end Holds

/-! ### Every arrival is handled once -/

/-- While a level is held at a rate, whatever settles and however late the run is woken: after each
reading of the clock before the deadline exactly the arrivals that are due by then have been issued
or skipped, one that is skipped finds the cap reached, and the next one is due one interval after the
last. A later hold begins with the arrival that is next or one interval from now, whichever comes
first. In a whole run with time between its arrivals none of them is handled twice, in one hold or
in two. -/
theorem arrivals_accounted :
    (∀ stage hold interval first opening now r, stage.hold? = some hold →
      hold.pace = .rate interval → 0 < interval.nanos →
      opening.runner.nextArrival = some first → Keeps stage hold opening now r →
      (∃ arrivals, CaughtUp opening [] { hold, interval, first, opening, arrivals } now r ∧
        Audited opening [] { hold, interval, first, opening, arrivals } now r) ∧
      ∀ now' next, CatchesUp r hold.phase interval.nanos hold.deadline now' next) ∧
    (∀ origin earlier a next now r, Course origin earlier a next now r →
      r.runner.nextArrival = some next → ∀ now' r' hold interval, now ≤ now' →
        Opens r now' r' hold → hold.pace = .rate interval → 0 < interval.nanos →
        GoesOn origin earlier a next now' r' hold interval) ∧
    ∀ setup x calls now cancelled r hold, setup.schedule = .rate x →
      (∀ level ∈ plannedLevels setup, 0 < (arrivalInterval level).nanos) →
      Reachable setup calls now cancelled r → r.stage.hold? = some hold →
      ∃ origin earlier a, Unburdened setup origin ∧ a.hold = hold ∧
        CaughtUp origin earlier a now r ∧ Audited origin earlier a now r := by
  refine ⟨?_, ?_, ?_⟩
  · intro stage hold interval first opening now r hhold hpace hpos hfirst hkeeps
    obtain ⟨arrivals, hcaught⟩ := caughtUp_of_keeps hhold hpace hpos hfirst hkeeps
    refine ⟨⟨arrivals, hcaught, hcaught.audited⟩, ?_⟩
    intro now' next
    exact catchesUp hpos r hold.phase hold.deadline now' next
  · intro origin earlier a next now r hcourse hnext now' r' hold interval hnow hopens hpace hpos
    exact (hcourse.elapse hnow).goesOn hnext hopens hpace hpos
  · intro setup x calls now cancelled r hold hschedule hpos hreach hhold
    obtain ⟨origin, earlier, a, horigin, ha, hcaught⟩ :=
      abreast_of_reachable hschedule hpos hreach hold hhold
    exact ⟨origin, earlier, a, horigin, ha, hcaught, hcaught.audited⟩

/-- The run of `cappedSetup` as it begins to hold its thousand requests a second until `10 ^ 8`. -/
def cappedOpening : Run × Hold :=
  ((Run.opened cappedSetup 0 0).measured 0).beginFullLoad (10 ^ 8) 0

/-- A step of the rise that asks for ten thousand requests a second. -/
def fasterStep : RampStep where
  start := .zero
  finish := .zero
  level := 10000.0

/-- A wake-up at 3.5 ms that brings the first response. -/
def lateSignal : Signal where
  now := 3500000
  cancelled := false
  settled := some ⟨0, .returned .success⟩

theorem arrivals_accounted_capped :
    (∃ r origin earlier a, Run.start cappedSetup 0 false 0 = .ok r ∧ r.runner.nextId = 1 ∧
      Unburdened cappedSetup origin ∧ Audited origin earlier a 0 r) ∧
    ∃ r r' a, Keeps (.sustained cappedOpening.2) cappedOpening.2 cappedOpening.1 0 r ∧
      r.step lateSignal = .ok r' ∧
      Audited cappedOpening.1 [] a lateSignal.now r' ∧ a.issued r' = 2 ∧ a.skipped r' = 2 ∧
      (a.dueBy lateSignal.now).ncard = 4 ∧ r'.runner.nextArrival = some 4000000 ∧
      (r'.beginStep fasterStep (10 ^ 8) 3600000).1.runner.nextArrival = some 3700000 := by
  obtain ⟨hholds, hgoesOn, hruns⟩ := arrivals_accounted
  constructor
  · have hfigures : (do
        let r ← Run.start cappedSetup 0 false 0
        return (r.stage.hold?.isSome, r.runner.nextId)).toOption = some (true, 1) := by
      decide +kernel
    obtain ⟨r, hstart, hfigures⟩ := bind_eq_ok.1 (ok_of_toOption hfigures)
    simp only [pure, Except.pure, Except.ok.injEq, Prod.mk.injEq,
      Option.isSome_iff_exists] at hfigures
    obtain ⟨⟨hold, hhold⟩, hid⟩ := hfigures
    have hpos := planned_interval_pos (show cappedSetup.schedule = .rate 1000.0 from rfl)
      (by decide +kernel) (by decide +kernel)
    obtain ⟨origin, earlier, a, horigin, -, -, haudited⟩ :=
      hruns _ _ _ _ _ r hold rfl hpos (.start hstart) hhold
    exact ⟨r, origin, earlier, a, hstart, hid, horigin, haudited⟩
  have hfigures : (do
      let r ← cappedOpening.1.issueDue cappedOpening.2 0
      let r' ← { r with stage := .sustained cappedOpening.2 }.step lateSignal
      return (r'.runner.nextId, r'.runner.skipped, r'.runner.nextArrival,
        match (r'.beginStep fasterStep (10 ^ 8) 3600000).2.pace with
        | .rate interval => interval.nanos
        | .concurrency _ => 0)).toOption = some (2, 2, some 4000000, 100000) := by decide +kernel
  obtain ⟨r, hissue, hfigures⟩ := bind_eq_ok.1 (ok_of_toOption hfigures)
  obtain ⟨r', hstep, hfigures⟩ := bind_eq_ok.1 hfigures
  simp only [pure, Except.pure, Except.ok.injEq, Prod.mk.injEq] at hfigures
  obtain ⟨hid, hskipped, hnext, hfaster⟩ := hfigures
  have hkeeps : Keeps (.sustained cappedOpening.2) cappedOpening.2 cappedOpening.1 0 _ :=
    .begin (by decide) hissue
  obtain ⟨⟨arrivals, ⟨next, hcourse, hplanned, -⟩, haudited⟩, -⟩ :=
    hholds _ _ ⟨1000000, by decide⟩ 0 _ _ r' rfl rfl (by decide) rfl
      (hkeeps.wake (Nat.zero_le _) (by decide) rfl hstep)
  obtain rfl : 4000000 = next := Option.some.inj (hnext.symm.trans hplanned)
  have hissued : r'.runner.nextId - cappedOpening.1.runner.nextId = 2 := by rw [hid]; decide
  have hskipped' : r'.runner.skipped - cappedOpening.1.runner.skipped = 2 := by
    rw [hskipped]
    decide
  refine ⟨_, r', _, hkeeps, hstep, haudited, hissued, hskipped', ?_, hnext, ?_⟩
  · have hcount := haudited.count
    unfold HoldAccount.issued HoldAccount.skipped at hcount
    dsimp only at hcount
    omega
  · split at hfaster
    · next interval hpace =>
      have hfirst := (hgoesOn _ _ _ _ _ _ hcourse hplanned 3600000 _ _ interval (by decide)
        (.step fasterStep (10 ^ 8)) hpace (by omega)).first
      rwa [hfaster] at hfirst
    · cases hfaster

end LoadTest.Proofs
