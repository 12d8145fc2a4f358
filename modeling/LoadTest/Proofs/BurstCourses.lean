import LoadTest.Proofs.Cancellation

/-!
# The course of a burst

A burst starts its requests a few at a time and waits for all of them. `BurstCourse` takes it one
action at a time from its beginning and keeps the requests that have settled. Every burst that a run
passes takes such a course, so it never exceeds its width or its count, and each request it has
started has either settled or is pending. A run leaves a burst only when none is pending, and then
the burst is complete unless the run was cancelled first.
-/

namespace LoadTest.Proofs

/-- The requests that were started in a phase, in order. -/
def startedIn (phase : Phase) (trace : List Note) : List ℕ :=
  trace.filterMap (startedId? (· = phase))

section Started

variable {phase : Phase} {r r' : Run} {notes : List Note} {now : ℕ}

lemma startedIn_append (a b : List Note) :
    startedIn phase (a ++ b) = startedIn phase a ++ startedIn phase b := List.filterMap_append ..

lemma startedIn_issued (id : ℕ) : startedIn phase [.issued phase id now] = [id] := by
  simp [startedIn, startedId?]

lemma startedIn_issued_of_ne {phase' : Phase} (h : phase' ≠ phase) (id : ℕ) :
    startedIn phase [.issued phase' id now] = [] := by
  simp [startedIn, startedId?, h]

lemma startedIn_of_append (htrace : r'.trace = r.trace ++ notes)
    (hnotes : startedIn phase notes = []) :
    startedIn phase r'.trace = startedIn phase r.trace := by
  rw [htrace, startedIn_append, hnotes, List.append_nil]

end Started

/-! ### One action after the other -/

/-- The states of a burst that begins in `first`, with the requests that have settled. The clock may
advance and the run may be cancelled anywhere, and what settles need not be one of its requests. -/
inductive BurstCourse (setup : Setup) (phase : Phase) (count : ℕ) (first : Run) :
    List ℕ → ℕ → Bool → Run → Burst → Prop where
  | begin (now : ℕ) (cancelled : Bool) :
    BurstCourse setup phase count first [] now cancelled (first.phaseStarted phase)
      (setup.burst phase count)
  | elapse {settled : List ℕ} {now now' : ℕ} {cancelled cancelled' : Bool} {r : Run} {b : Burst}
    (h : BurstCourse setup phase count first settled now cancelled r b) (hnow : now ≤ now')
    (hcancelled : cancelled = true → cancelled' = true) :
    BurstCourse setup phase count first settled now' cancelled' r b
  | wait {settled : List ℕ} {now : ℕ} {cancelled : Bool} {r : Run} {b : Burst}
    (h : BurstCourse setup phase count first settled now cancelled r b) :
    BurstCourse setup phase count first settled now cancelled { r with stage := .burst b } b
  | issue {settled : List ℕ} {now : ℕ} {cancelled : Bool} {r : Run} {b : Burst}
    (h : BurstCourse setup phase count first settled now cancelled r b)
    (hwants : b.wants cancelled) :
    BurstCourse setup phase count first settled now cancelled (r.issueBurst b now)
      (b.issue r.calls now)
  | settle {settled : List ℕ} {now : ℕ} {cancelled : Bool} {r : Run} {b : Burst} (s : Settlement)
    (h : BurstCourse setup phase count first settled now cancelled r b)
    (hpending : s.id ∈ b.pending.map Pending.id) :
    BurstCourse setup phase count first (settled ++ [s.id]) now cancelled (r.note s.ending.notes)
      (b.settle s.id)
  | ignore {settled : List ℕ} {now : ℕ} {cancelled : Bool} {r : Run} {b : Burst} (s : Settlement)
    (h : BurstCourse setup phase count first settled now cancelled r b)
    (hunknown : s.id ∉ b.pending.map Pending.id) :
    BurstCourse setup phase count first settled now cancelled (r.note s.ending.notes) b

/-- What holds throughout a burst of `count` requests that began in `first`. -/
structure BurstKept (setup : Setup) (phase : Phase) (count : ℕ) (first : Run) (settled : List ℕ)
    (r : Run) (b : Burst) : Prop where
  phase_eq : b.phase = phase
  count_eq : b.count = count
  width_eq : b.width = max 1 setup.settings.warmupConcurrency
  pending_le : b.pending.length ≤ max 1 setup.settings.warmupConcurrency
  issued_le : b.issued ≤ count
  /-- Each request that was started has settled or is pending, and no other is. -/
  accounted : (settled ++ b.pending.map Pending.id).Perm (List.range b.issued)
  started : startedIn phase r.trace = startedIn phase first.trace ++ List.range b.issued

section Course

variable {setup : Setup} {phase : Phase} {count now : ℕ} {cancelled : Bool} {first r : Run}
  {settled : List ℕ} {b : Burst}

lemma settle_of_unknown {id : ℕ} (h : id ∉ b.pending.map Pending.id) : b.settle id = b := by
  have hkept : b.pending.filter (fun p => p.id ≠ id) = b.pending := by
    refine List.filter_eq_self.2 fun p hp => ?_
    simp only [decide_eq_true_eq]
    rintro rfl
    exact h (List.mem_map_of_mem hp)
  unfold Burst.settle
  rw [hkept]

lemma settle_ids (h : (b.pending.map Pending.id).Nodup) (id : ℕ) :
    (b.settle id).pending.map Pending.id = (b.pending.map Pending.id).erase id := by
  rw [h.erase_eq_filter, List.filter_map]
  refine congrArg _ (List.filter_congr fun p _ => ?_)
  exact Bool.eq_iff_iff.2 (by simp)

/-- The request that settles moves from those that are pending to those that have settled. -/
lemma settle_perm {id : ℕ} (h : (settled ++ b.pending.map Pending.id).Nodup)
    (hpending : id ∈ b.pending.map Pending.id) :
    (settled ++ [id] ++ (b.settle id).pending.map Pending.id).Perm
      (settled ++ b.pending.map Pending.id) := by
  rw [settle_ids (List.nodup_append.1 h).2.1, List.append_assoc]
  exact List.Perm.append_left _ (List.perm_cons_erase hpending).symm

lemma BurstKept.issue (h : BurstKept setup phase count first settled r b)
    (hwants : b.wants cancelled) :
    BurstKept setup phase count first settled (r.issueBurst b now) (b.issue r.calls now) := by
  obtain ⟨hleft, hroom, -⟩ := hwants
  refine ⟨h.phase_eq, h.count_eq, h.width_eq, ?_, ?_, ?_, ?_⟩
  · rw [h.width_eq] at hroom
    simpa [Burst.issue, Nat.succ_le_iff] using hroom
  · rw [h.count_eq] at hleft
    exact hleft
  · simp only [Burst.issue, List.map_append, List.map_singleton, ← List.append_assoc,
      List.range_succ]
    exact h.accounted.append_right _
  · rw [issueBurst_trace, startedIn_append, h.started, h.phase_eq, startedIn_issued,
      List.append_assoc]
    simp only [Burst.issue, List.range_succ]

lemma BurstKept.settle (s : Settlement) (h : BurstKept setup phase count first settled r b)
    (hpending : s.id ∈ b.pending.map Pending.id) :
    BurstKept setup phase count first (settled ++ [s.id]) (r.note s.ending.notes)
      (b.settle s.id) := by
  have hnodup : (settled ++ b.pending.map Pending.id).Nodup :=
    h.accounted.nodup_iff.2 List.nodup_range
  refine ⟨h.phase_eq, h.count_eq, h.width_eq, ?_, h.issued_le, ?_, ?_⟩
  · exact Nat.le_trans (List.length_filter_le _ _) h.pending_le
  · exact (settle_perm hnodup hpending).trans h.accounted
  · simpa [ending_notes_filter, Burst.settle] using h.started

/-- Every course of a burst keeps its bounds and accounts for its requests. -/
lemma course_kept (h : BurstCourse setup phase count first settled now cancelled r b) :
    BurstKept setup phase count first settled r b := by
  induction h with
  | begin =>
    refine ⟨rfl, rfl, rfl, Nat.zero_le _, Nat.zero_le _, List.Perm.refl _, ?_⟩
    simp [startedIn, startedId?, Setup.burst]
  | elapse _ _ _ ih => exact ih
  | wait _ ih => exact ⟨ih.1, ih.2, ih.3, ih.4, ih.5, ih.6, ih.7⟩
  | issue _ hwants ih => exact ih.issue hwants
  | settle s _ hpending ih => exact ih.settle s hpending
  | ignore s _ _ ih =>
    refine ⟨ih.1, ih.2, ih.3, ih.4, ih.5, ih.6, ?_⟩
    simpa [ending_notes_filter] using ih.started

lemma BurstKept.width_pos (h : BurstKept setup phase count first settled r b) : 0 < b.width := by
  rw [h.width_eq]
  exact Nat.lt_of_lt_of_le Nat.zero_lt_one (Nat.le_max_left ..)

/-- A burst of which nothing is pending and that wants no more is complete, or the run has been
cancelled. Here it matters that the width is never zero. -/
lemma issued_of_empty (hwidth : 0 < b.width) (hle : b.issued ≤ b.count)
    (hwants : ¬b.wants cancelled) (hpending : b.pending = []) :
    b.issued = b.count ∨ cancelled = true := by
  by_contra hopen
  obtain ⟨hleft, hrunning⟩ := not_or.1 hopen
  have hroom : b.pending.length < b.width := by rwa [hpending]
  exact hwants ⟨Nat.lt_of_le_of_ne hle hleft, hroom, Bool.not_eq_true _ ▸ hrunning⟩

lemma BurstKept.complete (h : BurstKept setup phase count first settled r b)
    (hwants : ¬b.wants cancelled) (hpending : b.pending = []) :
    settled.Perm (List.range b.issued) ∧ (b.issued = count ∨ cancelled = true) := by
  have haccounted := h.accounted
  have hle := h.issued_le
  rw [hpending, List.map_nil, List.append_nil] at haccounted
  rw [← h.count_eq] at hle ⊢
  exact ⟨haccounted, issued_of_empty h.width_pos hle hwants hpending⟩

end Course

/-! ### The bursts of a run -/

/-- Where the bursts of a run begin, and how many requests they are to start. -/
inductive BurstBegins (setup : Setup) (calls : ℕ) : Phase → ℕ → Run → Prop where
  | warmup {now : ℕ} {cancelled : Bool} {r : Run}
    (h : Passes setup calls .opened now cancelled r) (hcount : setup.warmupCount ≠ 0) :
    BurstBegins setup calls .warmup setup.warmupCount r
  | cooldown {now : ℕ} {cancelled : Bool} {r : Run}
    (h : Passes setup calls .drained now cancelled r) (hcount : r.cooldownCount ≠ 0) :
    BurstBegins setup calls .cooldown r.cooldownCount r

/-- How many requests the burst of a phase is to start, as far as the run has come. -/
def burstCount (setup : Setup) (r : Run) : Phase → ℕ
  | .warmup => setup.warmupCount
  | _ => r.cooldownCount

lemma BurstBegins.count_eq {setup : Setup} {calls count : ℕ} {phase : Phase} {r : Run}
    (h : BurstBegins setup calls phase count r) : count = burstCount setup r phase := by
  cases h with
  | warmup | cooldown => rfl

/-- How far the burst of a phase has come. -/
inductive BurstProgress where
  | ahead
  | running (b : Burst)
  | past

/-- How far the burst of a phase has come between warmup and cooldown. -/
def betweenBursts (phase : Phase) : BurstProgress := if phase = .warmup then .past else .ahead

/-- How far the burst of a phase has come at a place. -/
def Place.progress (phase : Phase) : Place → BurstProgress
  | .opened => .ahead
  | .within (.burst b) => if b.phase = phase then .running b else betweenBursts phase
  | .closing | .within .finished => .past
  | _ => betweenBursts phase

lemma progress_burst (b : Burst) : (Place.within (.burst b)).progress b.phase = .running b :=
  if_pos rfl

lemma progress_burst_of_ne {b : Burst} {phase : Phase} (h : b.phase ≠ phase) :
    (Place.within (.burst b)).progress phase = betweenBursts phase := if_neg h

/-- The requests that a burst of `count` has started, in their order: none before it begins, and all
once it is over, unless the run has been cancelled. -/
def StartedInFull (count : ℕ) (cancelled : Bool) (ids : List ℕ) : BurstProgress → Prop
  | .ahead => ids = []
  | .running b => ids = List.range b.issued
  | .past => ∃ n ≤ count, ids = List.range n ∧ (n = count ∨ cancelled = true)

lemma StartedInFull.all {count : ℕ} {ids : List ℕ} (h : StartedInFull count false ids .past) :
    ids = List.range count := by
  obtain ⟨n, -, hids, rfl | hcancelled⟩ := h
  · exact hids
  · cases hcancelled

/-- What a run has started in the burst of a phase, by the time it stands at a place. -/
def BurstTold (setup : Setup) (phase : Phase) (place : Place) (cancelled : Bool) (r : Run) : Prop :=
  StartedInFull (burstCount setup r phase) cancelled (startedIn phase r.trace)
    (place.progress phase)

section Passed

variable {setup : Setup} {calls now : ℕ} {cancelled : Bool} {phase : Phase} {place place' : Place}
  {r r' : Run} {b : Burst} {notes : List Note}

/-- Every state that a run passes in a burst lies on the course of that burst. -/
lemma passes_burstCourse (h : Passes setup calls (.within (.burst b)) now cancelled r) :
    ∃ first settled, BurstBegins setup calls b.phase b.count first ∧
      first.cooldownCount = r.cooldownCount ∧
      BurstCourse setup b.phase b.count first settled now cancelled r b := by
  generalize hplace : Place.within (.burst b) = place at h
  induction h generalizing b with
  | elapse _ hnow hcancelled ih =>
    obtain ⟨first, settled, hbegins, hcount, hcourse⟩ := ih hplace
    exact ⟨first, settled, hbegins, hcount, hcourse.elapse hnow hcancelled⟩
  | wait _ ih =>
    cases hplace
    obtain ⟨first, settled, hbegins, hcount, hcourse⟩ := ih rfl
    exact ⟨first, settled, hbegins, hcount, hcourse.wait⟩
  | beginWarmup h hcount =>
    cases hplace
    exact ⟨_, [], .warmup h hcount, rfl, .begin _ _⟩
  | beginCooldown h hcount =>
    cases hplace
    exact ⟨_, [], .cooldown h hcount, rfl, .begin _ _⟩
  | issueBurst _ hwants ih =>
    cases hplace
    obtain ⟨first, settled, hbegins, hcount, hcourse⟩ := ih rfl
    exact ⟨first, settled, hbegins, hcount, hcourse.issue hwants⟩
  | @settleBurst b' _ _ _ s _ ih =>
    cases hplace
    obtain ⟨first, settled, hbegins, hcount, hcourse⟩ := ih rfl
    by_cases hpending : s.id ∈ b'.pending.map Pending.id
    · exact ⟨first, settled ++ [s.id], hbegins, hcount, hcourse.settle s hpending⟩
    · rw [settle_of_unknown hpending]
      exact ⟨first, settled, hbegins, hcount, hcourse.ignore s hpending⟩
  -- The other actions find or leave the run outside its bursts.
  | refill _ hhold | arrive _ hhold | schedule _ _ hhold | reportProgress _ hhold =>
    cases hplace
    cases hhold
  | record _ hmeasured =>
    cases hplace
    simp only [Place.part] at hmeasured
    split at hmeasured <;> cases hmeasured
  | _ => cases hplace

lemma burstTold_burst : BurstTold setup b.phase (.within (.burst b)) cancelled r ↔
    startedIn b.phase r.trace = List.range b.issued := by
  unfold BurstTold
  rw [progress_burst]
  rfl

lemma BurstTold.of_kept {cancelled' : Bool} (h : BurstTold setup phase place cancelled r)
    (hplace : place'.progress phase = place.progress phase)
    (hcount : place.progress phase = .past → burstCount setup r' phase = burstCount setup r phase)
    (hcancelled : cancelled = true → cancelled' = true) (htrace : r'.trace = r.trace ++ notes)
    (hnotes : startedIn phase notes = []) : BurstTold setup phase place' cancelled' r' := by
  unfold BurstTold at *
  rw [hplace, startedIn_of_append htrace hnotes]
  cases hprogress : place.progress phase with
  | ahead | running => rwa [hprogress] at h
  | past =>
    rw [hprogress] at h
    obtain ⟨n, hn, hids, hfull⟩ := h
    rw [hcount hprogress]
    exact ⟨n, hn, hids, hfull.imp_right hcancelled⟩

/-- Between the bursts nothing is started that counts for them. -/
lemma BurstTold.of_between (h : BurstTold setup phase place cancelled r)
    (hplace : place.progress phase = betweenBursts phase)
    (hplace' : place'.progress phase = betweenBursts phase) (htrace : r'.trace = r.trace ++ notes)
    (hnotes : startedIn phase notes = []) : BurstTold setup phase place' cancelled r' := by
  refine h.of_kept (hplace'.trans hplace.symm) ?_ id htrace hnotes
  rw [hplace]
  unfold betweenBursts
  split
  · next hwarmup =>
    subst hwarmup
    exact fun _ => rfl
  · exact nofun

lemma BurstTold.of_silent (h : BurstTold setup phase place cancelled r)
    (hplace : place.progress phase = betweenBursts phase)
    (hplace' : place'.progress phase = betweenBursts phase) (htrace : r'.trace = r.trace) :
    BurstTold setup phase place' cancelled r' :=
  h.of_between hplace hplace' (htrace.trans (List.append_nil _).symm) rfl

lemma BurstTold.of_issuedRun {phase' : Phase} (h : BurstTold setup phase place cancelled r)
    (hphase : phase.isMeasured = false) (hphase' : phase'.isMeasured = true)
    (hplace : place.progress phase = betweenBursts phase) :
    BurstTold setup phase place cancelled (issuedRun r phase' now) := by
  refine h.of_between hplace hplace (issuedRun_trace ..) (startedIn_issued_of_ne ?_ _)
  rintro rfl
  cases hphase.symm.trans hphase'

lemma progress_of_measured {stage : Stage} (h : (Place.within stage).part = .measured)
    (phase : Phase) : (Place.within stage).progress phase = betweenBursts phase := by
  cases stage with
  | burst b =>
    simp only [Place.part] at h
    split at h <;> cases h
  | finished => cases h
  | _ => rfl

lemma BurstTold.of_begun (h : BurstTold setup phase place cancelled r) (hissued : b.issued = 0)
    (hahead : place.progress b.phase = .ahead)
    (hother : b.phase ≠ phase → place.progress phase = betweenBursts phase)
    (htrace : r'.trace = r.trace ++ notes) (hnotes : startedIn phase notes = []) :
    BurstTold setup phase (.within (.burst b)) cancelled r' := by
  by_cases hphase : b.phase = phase
  · subst hphase
    unfold BurstTold at h
    rw [hahead] at h
    rw [burstTold_burst, startedIn_of_append htrace hnotes, hissued]
    exact h
  · exact h.of_between (hother hphase) (progress_burst_of_ne hphase) htrace hnotes

/-- A burst that is over has started all its requests, unless the run has been cancelled. -/
lemma BurstTold.of_past (hpasses : Passes setup calls (.within (.burst b)) now cancelled r)
    (h : BurstTold setup phase (.within (.burst b)) cancelled r) (hwants : ¬b.wants cancelled)
    (hpending : b.pending = []) (hpast : place'.progress b.phase = .past)
    (hother : b.phase ≠ phase → place'.progress phase = betweenBursts phase)
    (hcount' : r'.cooldownCount = r.cooldownCount) (htrace : r'.trace = r.trace ++ notes)
    (hnotes : startedIn phase notes = []) : BurstTold setup phase place' cancelled r' := by
  by_cases hphase : b.phase = phase
  · subst hphase
    obtain ⟨first, settled, hbegins, hcount, hcourse⟩ := passes_burstCourse hpasses
    have hkept := course_kept hcourse
    have hcount : b.count = burstCount setup r' b.phase := by
      rw [hbegins.count_eq]
      unfold burstCount
      rw [hcount, hcount']
    rw [burstTold_burst] at h
    unfold BurstTold
    rw [hpast, startedIn_of_append htrace hnotes, ← hcount]
    exact ⟨b.issued, hkept.issued_le, h, (hkept.complete hwants hpending).2⟩
  · exact h.of_between (progress_burst_of_ne hphase) (hother hphase) htrace hnotes

/-- What has been started in a burst is told by the place at which the run stands. -/
lemma passes_burstTold (h : Passes setup calls place now cancelled r)
    (hphase : phase.isMeasured = false) : BurstTold setup phase place cancelled r := by
  have hcooldown : Phase.cooldown ≠ phase → .past = betweenBursts phase := by
    intro hne
    cases phase with
    | warmup => rfl
    | cooldown => exact absurd rfl hne
    | _ => cases hphase
  induction h with
  | opened => simp [BurstTold, Place.progress, StartedInFull, startedIn, startedId?]
  | elapse _ _ hcancelled ih =>
    exact ih.of_kept rfl (fun _ => rfl) hcancelled (List.append_nil _).symm rfl
  | wait _ ih => exact ih.of_kept rfl (fun _ => rfl) id (List.append_nil _).symm rfl
  | skipWarmup _ hcount ih =>
    cases phase with
    | warmup => exact ⟨0, Nat.zero_le _, ih, .inl hcount.symm⟩
    | cooldown => exact ih
    | _ => cases hphase
  | beginWarmup _ _ ih =>
    refine ih.of_begun rfl rfl (fun hne => ?_) (by simp; rfl) rfl
    exact (if_neg (Ne.symm hne)).symm
  | @issueBurst b now cancelled r _ _ ih =>
    by_cases hburst : b.phase = phase
    · subst hburst
      refine burstTold_burst.2 (?_ : startedIn b.phase _ = List.range (b.issued + 1))
      rw [issueBurst_trace, startedIn_append, burstTold_burst.1 ih, startedIn_issued,
        List.range_succ]
    · exact ih.of_between (progress_burst_of_ne hburst) (progress_burst_of_ne hburst)
        (issueBurst_trace ..) (startedIn_issued_of_ne hburst _)
  | @settleBurst b now cancelled r s _ ih =>
    by_cases hburst : b.phase = phase
    · subst hburst
      refine burstTold_burst.2 (?_ : startedIn b.phase _ = List.range b.issued)
      simpa [ending_notes_filter] using burstTold_burst.1 ih
    · exact ih.of_between (progress_burst_of_ne hburst) (progress_burst_of_ne hburst)
        (note_trace ..) (by simp [ending_notes_filter, startedIn])
  | endWarmup hpasses hwarmup hwants hpending ih =>
    refine ih.of_past hpasses hwants hpending ?_ (fun _ => rfl) rfl (by simp; rfl) rfl
    rw [hwarmup]
    rfl
  | beginCooldown _ _ ih => exact ih.of_begun rfl rfl (fun _ => rfl) (by simp; rfl) rfl
  | endCooldown hpasses hburst hwants hpending ih =>
    refine ih.of_past hpasses hwants hpending rfl (fun hne => ?_) rfl (by simp; rfl) rfl
    exact hcooldown (hburst ▸ hne)
  | skipCooldown _ hcount ih =>
    cases phase with
    | warmup => exact ih
    | cooldown => exact ⟨0, Nat.zero_le _, ih, .inl hcount.symm⟩
    | _ => cases hphase
  | complete _ hcomplete ih =>
    obtain ⟨report, -, rfl⟩ := complete_ok hcomplete
    refine ih.of_kept rfl (fun _ => ?_) id (completed_trace ..) rfl
    cases phase <;> simp [burstCount, Run.cooldownCount]
  | refill h hhold _ _ _ hissue ih =>
    obtain ⟨-, rfl⟩ := issue_ok hissue
    exact ih.of_issuedRun hphase (isMeasured_of_hold (passes_wellFormed h) hhold)
      (progress_of_measured (part_of_hold hhold) phase)
  | arrive h hhold _ _ harrive ih =>
    have hplace := progress_of_measured (part_of_hold hhold) phase
    obtain ⟨-, rfl⟩ | ⟨-, -, rfl⟩ := arrive_ok harrive
    · exact ih.of_silent hplace hplace (by simp)
    · exact ih.of_issuedRun hphase (isMeasured_of_hold (passes_wellFormed h) hhold) hplace
  | schedule _ _ hhold _ ih =>
    have hplace := progress_of_measured (part_of_hold hhold) phase
    exact ih.of_silent hplace hplace rfl
  | reportProgress _ hhold hreport ih =>
    have hplace := progress_of_measured (part_of_hold hhold) phase
    obtain ⟨-, rfl⟩ | ⟨-, elapsed, nextProgress, -, -, rfl⟩ := reportProgress_ok hreport
    · exact ih
    · exact ih.of_between hplace hplace (note_trace ..) rfl
  | record _ hmeasured hrecord ih =>
    have hplace := progress_of_measured hmeasured phase
    obtain ⟨runner, notes, hnotes, rfl, -⟩ := record_ok hrecord
    exact ih.of_silent hplace hplace (by simp [hnotes])
  | beginRampDown _ _ ih => exact ih.of_between rfl rfl (rampingDown_trace ..) rfl
  | endRampDown _ _ _ ih => exact ih.of_between rfl rfl (drained_trace ..) rfl
  | skipRise _ ih | beginMeasured _ _ ih | beginStep _ _ ih =>
    exact ih.of_silent rfl rfl (by simp)
  | _ =>
    rename_i ih
    exact ih.of_between rfl rfl (by simp; rfl) rfl

lemma passes_startedIn (h : Passes setup calls (.within (.burst b)) now cancelled r) :
    startedIn b.phase r.trace = List.range b.issued :=
  burstTold_burst.1 (passes_burstTold h (isMeasured_of_burst (passes_wellFormed h)))

end Passed

/-! ### Waiting for a burst -/

section Waiting

variable {setup : Setup} {calls now : ℕ} {cancelled : Bool} {r r' : Run} {b : Burst}

/-- A burst that a run waits for once it has begun: everything it has started is pending, something
is, and it wants no more. -/
structure BurstEntered (cancelled : Bool) (phase : Phase) (b : Burst) : Prop where
  phase_eq : b.phase = phase
  ids : b.pending.map Pending.id = List.range b.issued
  pending : b.pending ≠ []
  full : ¬b.wants cancelled

/-- If the run waits for a burst, then the burst has just been entered. -/
def Enters (cancelled : Bool) (phase : Phase) (r : Run) : Prop :=
  ∀ b, r.stage = .burst b → BurstEntered cancelled phase b

lemma Enters.of_stage {phase : Phase} (h : ∀ b, r.stage ≠ .burst b) : Enters cancelled phase r :=
  fun b hstage => absurd hstage (h b)

lemma enters_complete {phase : Phase} (hr : r.complete = .ok r') : Enters cancelled phase r' := by
  obtain ⟨report, -, rfl⟩ := complete_ok hr
  exact .of_stage (by simp)

/-- The place lies before the load or after it; if it is in a burst, then the burst has only begun. -/
def Place.Fresh (phase : Phase) : Place → Prop
  | .opened => phase = .warmup
  | .within (.burst b) => b.phase = phase ∧ b.pending.map Pending.id = List.range b.issued
  | _ => True

lemma fresh_of_stage {stage : Stage} (h : ∀ b, stage ≠ .burst b) (phase : Phase) :
    (Place.within stage).Fresh phase := by
  cases stage with
  | burst b => exact absurd rfl (h b)
  | _ => trivial

/-- A run goes on from a burst to the cooldown or to its end. -/
lemma enters_proceeds {place : Place} {phase : Phase}
    (h : Proceeds setup now cancelled place r r') (hplace : place.Fresh phase) :
    Enters cancelled phase r' ∨ Enters cancelled .cooldown r' := by
  induction h generalizing phase with
  | beginWarmup _ _ ih => exact ih ⟨hplace.symm, rfl⟩
  | issueBurst _ _ ih =>
    obtain ⟨hphase, hids⟩ := hplace
    exact ih ⟨hphase, by simp [Burst.issue, List.range_succ, hids]⟩
  | awaitBurst hwants hpending =>
    obtain ⟨hphase, hids⟩ := hplace
    refine .inl ?_
    rintro _ ⟨⟩
    exact ⟨hphase, hids, hpending, hwants⟩
  | beginCooldown _ _ ih => exact .inr ((ih ⟨rfl, rfl⟩).elim id id)
  | awaitHold _ hhold =>
    refine .inl (.of_stage ?_)
    rintro b rfl
    cases hhold
  | awaitRampDown => exact .inl (.of_stage (by rintro _ ⟨⟩))
  | complete hcomplete => exact .inl (enters_complete hcomplete)
  | _ =>
    rename_i ih
    exact ih trivial

/-- From a place outside the bursts it can only be the cooldown that is entered. -/
lemma enters_cooldown {place : Place} (h : Proceeds setup now cancelled place r r')
    (hplace : place.Fresh .cooldown) : Enters cancelled .cooldown r' :=
  (enters_proceeds h hplace).elim id id

lemma enters_start (hr : Run.start setup calls cancelled now = .ok r) :
    Enters cancelled .warmup r ∨ Enters cancelled .cooldown r :=
  enters_proceeds (proceeds_start hr) rfl

/-- A signal that finds a run outside its bursts leaves it there, or the cooldown is entered. -/
lemma enters_step {s : Signal} (hburst : ∀ b, r.stage ≠ .burst b) (hr : r.step s = .ok r') :
    Enters s.cancelled .cooldown r' := by
  cases answers_step hr with
  | idle hstage | settle hstage => exact absurd hstage (hburst _)
  | cut _ _ hproceeds | wake _ _ _ _ hproceeds | drain _ _ hproceeds =>
    exact enters_cooldown hproceeds (fresh_of_stage hburst .cooldown)
  | finished => exact .of_stage hburst

/-- A burst is refilled with the requests that come next, until it wants no more. It is waited for
while something is pending. Otherwise it is left, after the cooldown to the end of the run. -/
lemma burst_proceeds (h : Proceeds setup now cancelled (.within (.burst b)) r r') :
    ∃ (more : List Pending) (b' : Burst), more.map Pending.id = List.range' b.issued more.length ∧
      b' = { b with issued := b.issued + more.length, pending := b.pending ++ more } ∧
      ¬b'.wants cancelled ∧
      (r'.stage = .burst b' ∧ b'.pending ≠ [] ∧
          startedIn b.phase r'.trace = startedIn b.phase r.trace ++ more.map Pending.id ∨
        b'.pending = [] ∧ Enters cancelled .cooldown r' ∧ (b.phase ≠ .warmup →
          r'.stage = .finished ∧
            startedIn b.phase r'.trace = startedIn b.phase r.trace ++ more.map Pending.id)) := by
  generalize hplace : Place.within (.burst b) = place at h
  induction h generalizing b with
  | @issueBurst b r _ _ _ ih =>
    cases hplace
    obtain ⟨more, b', hids, hburst, hdone, hcase⟩ := ih rfl
    have hissued : startedIn b.phase (r.issueBurst b now).trace ++ more.map Pending.id =
        startedIn b.phase r.trace ++ b.issued :: more.map Pending.id := by
      rw [issueBurst_trace, startedIn_append, List.append_assoc]
      exact congrArg (fun ids => startedIn b.phase r.trace ++ (ids ++ more.map Pending.id))
        (startedIn_issued b.issued)
    refine ⟨{ id := b.issued, call := r.calls, startedAt := now } :: more, b', ?_, ?_, hdone, ?_⟩
    · rw [List.map_cons, hids, List.length_cons, List.range'_succ]
      rfl
    · rw [hburst]
      simp [Burst.issue, Nat.add_assoc, Nat.add_comm 1]
    · rw [List.map_cons, ← hissued]
      exact hcase
  | @awaitBurst b _ hwants hpending =>
    cases hplace
    exact ⟨[], b, rfl, by simp, hwants, .inl ⟨rfl, hpending, (List.append_nil _).symm⟩⟩
  | @endWarmup b _ _ hphase hwants hpending h =>
    cases hplace
    have henters := enters_cooldown h trivial
    exact ⟨[], b, rfl, by simp, hwants, .inr ⟨hpending, henters, fun hne => absurd hphase hne⟩⟩
  | @endCooldown b _ _ hphase hwants hpending h =>
    cases hplace
    cases h with
    | complete hcomplete =>
      have henters : Enters cancelled .cooldown _ := enters_complete hcomplete
      obtain ⟨report, -, rfl⟩ := complete_ok hcomplete
      refine ⟨[], b, rfl, by simp, hwants, .inr ⟨hpending, henters, fun _ => ⟨by simp, ?_⟩⟩⟩
      simp [startedIn, startedId?]
  | awaitHold _ hhold =>
    cases hplace
    cases hhold
  | _ => cases hplace

/-- What a run makes of a signal while it waits for a burst. -/
inductive BurstAnswer (b : Burst) (s : Signal) (r r' : Run) : Prop where
  /-- Nothing has settled. -/
  | idle (hsettled : s.settled = none) (hsame : r' = r)
  /-- The burst goes on with what is still pending and with the requests that come next. -/
  | goesOn (settled : Settlement) (more : List Pending) (b' : Burst)
    (hsettled : s.settled = some settled)
    (hids : more.map Pending.id = List.range' b.issued more.length)
    (hburst : b' = { b with
      issued := b.issued + more.length, pending := (b.settle settled.id).pending ++ more })
    (hstage : r'.stage = .burst b') (hpending : b'.pending ≠ [])
    (hfull : ¬b'.wants s.cancelled)
    (hstarted : startedIn b.phase r'.trace = startedIn b.phase r.trace ++ more.map Pending.id)
  /-- What settled is all that was pending. The burst is over, and no more of it is started. -/
  | leaves (settled : Settlement) (hsettled : s.settled = some settled)
    (hlast : (b.settle settled.id).pending = [])
    (hfull : b.issued = b.count ∨ s.cancelled = true)
    (henters : Enters s.cancelled .cooldown r')
    (hfinished : b.phase ≠ .warmup → r'.stage = .finished)
    (hstarted : startedIn b.phase r'.trace = startedIn b.phase r.trace)

lemma startedIn_of_cancelled {phase : Phase} (h : Advances now true r r') :
    startedIn phase r'.trace = startedIn phase r.trace := by
  obtain ⟨notes, htrace, hnotes⟩ := h
  refine startedIn_of_append htrace (List.filterMap_eq_nil_iff.2 fun n hn => ?_)
  cases n with
  | issued => cases (hnotes _ hn).2
  | _ => rfl

lemma startedIn_of_complete {notes : List Note}
    (hpasses : Passes setup calls (.within r'.stage) now cancelled r')
    (henters : Enters cancelled .cooldown r') (htrace : r'.trace = r.trace ++ notes)
    (hstarted : startedIn .warmup r.trace = List.range setup.warmupCount) :
    startedIn .warmup r'.trace = startedIn .warmup r.trace := by
  have hpast : (Place.within r'.stage).progress .warmup = .past := by
    cases hstage : r'.stage with
    | burst b =>
      refine progress_burst_of_ne ?_
      rw [(henters b hstage).phase_eq]
      nofun
    | _ => rfl
  have htold : BurstTold setup .warmup _ _ _ := passes_burstTold hpasses rfl
  unfold BurstTold at htold
  rw [hpast] at htold
  obtain ⟨n, hn, hids, -⟩ := htold
  -- As many as the warmup may have are in `r` already, so that there are none among the notes.
  have hlength := congrArg List.length hids
  rw [htrace, startedIn_append, List.length_append, hstarted, List.length_range,
    List.length_range] at hlength
  have hnone : startedIn .warmup notes = [] := List.eq_nil_of_length_eq_zero (by
    change _ ≤ setup.warmupCount at hn
    omega)
  exact startedIn_of_append htrace hnone

/-- A warmup that has been left is not taken up again. -/
lemma startedIn_of_warmup {now' : ℕ} {cancelled' : Bool}
    (hpasses : Passes setup calls (.within (.burst b)) now cancelled r) (hphase : b.phase = .warmup)
    (hfull : b.issued = b.count ∨ cancelled' = true)
    (hpasses' : Passes setup calls (.within r'.stage) now' cancelled' r')
    (henters : Enters cancelled' .cooldown r') (hadvances : Advances now' cancelled' r r') :
    startedIn b.phase r'.trace = startedIn b.phase r.trace := by
  obtain hfull | hfull := hfull
  · obtain ⟨first, _, hbegins, -, -⟩ := passes_burstCourse hpasses
    obtain ⟨notes, htrace, -⟩ := hadvances
    have hstarted := passes_startedIn hpasses
    rw [hfull, hbegins.count_eq, hphase] at hstarted
    rw [hphase]
    exact startedIn_of_complete hpasses' henters htrace hstarted
  · exact startedIn_of_cancelled (hfull ▸ hadvances)

lemma burstAnswer_step {s : Signal} (h : Reachable setup calls now cancelled r)
    (hnow : now ≤ s.now) (hcancelled : cancelled = true → s.cancelled = true)
    (hstage : r.stage = .burst b) (hr : r.step s = .ok r') : BurstAnswer b s r r' := by
  have hpasses' := passes_of_reachable (h.step hnow hcancelled hr)
  have hpasses := passes_of_reachable h
  have hadvances := advances_step hr
  rw [hstage] at hpasses
  obtain ⟨_, _, -, -, hcourse⟩ := passes_burstCourse hpasses
  have hkept := course_kept hcourse
  cases answers_step hr with
  | idle _ hsettled => exact .idle hsettled rfl
  | @settle _ settled _ hstage' hsettled hproceeds =>
    cases hstage.symm.trans hstage'
    obtain ⟨more, b', hids, hburst, hdone, hcase⟩ := burst_proceeds hproceeds
    have hnoted : (r.note settled.ending.notes).trace = r.trace := by simp [ending_notes_filter]
    rw [hnoted] at hcase
    obtain ⟨hstage₁, hpending, hstarted⟩ | ⟨hempty, henters, hfinished⟩ := hcase
    · exact .goesOn settled more b' hsettled hids hburst hstage₁ hpending hdone hstarted
    · -- Nothing was started for what settled, or it would be pending.
      subst hburst
      obtain ⟨hlast, rfl⟩ := List.append_eq_nil_iff.1 hempty
      rw [List.append_nil] at hdone
      have hfull : b.issued = b.count ∨ s.cancelled = true :=
        issued_of_empty (b := b.settle settled.id) hkept.width_pos hkept.issued_le hdone hlast
      refine .leaves settled hsettled hlast hfull henters (fun hphase => (hfinished hphase).1) ?_
      by_cases hphase : b.phase = .warmup
      · exact startedIn_of_warmup hpasses hphase hfull hpasses' henters hadvances
      · exact (hfinished hphase).2.trans (List.append_nil _)
  | cut hhold | wake hhold =>
    rw [hstage] at hhold
    cases hhold
  | drain hstage' | finished hstage' => cases hstage.symm.trans hstage'

lemma BurstEntered.waits {phase : Phase} (h : BurstEntered cancelled phase b) :
    b.pending ≠ [] ∧ ¬b.wants cancelled := ⟨h.pending, h.full⟩

/-- A run waits for a burst only while something is pending, and all it may start has been. -/
lemma burst_waits (h : Reachable setup calls now cancelled r) (hstage : r.stage = .burst b) :
    b.pending ≠ [] ∧ ¬b.wants cancelled := by
  induction h generalizing b with
  | start hstart =>
    obtain henters | henters := enters_start hstart
    · exact (henters b hstage).waits
    · exact (henters b hstage).waits
  | @step now cancelled r r' s h hnow hcancelled hstep ih =>
    by_cases hburst : ∃ b', r.stage = .burst b'
    · obtain ⟨b', hstage'⟩ := hburst
      cases burstAnswer_step h hnow hcancelled hstage' hstep with
      | idle _ hsame =>
        obtain ⟨hpending, hfull⟩ := ih (hsame ▸ hstage)
        refine ⟨hpending, fun hwants => hfull ⟨hwants.1, hwants.2.1, ?_⟩⟩
        rw [← Bool.not_eq_true]
        intro htrue
        cases (hcancelled htrue).symm.trans hwants.2.2
      | goesOn settled more b₁ _ _ _ hstage₁ hpending hfull _ =>
        cases hstage₁.symm.trans hstage
        exact ⟨hpending, hfull⟩
      | leaves _ _ _ _ henters _ _ => exact (henters b hstage).waits
    · exact (enters_step (not_exists.1 hburst) hstep b hstage).waits

end Waiting

/-- Bursts keep to their width and their count and are waited for. Every course of a burst, whatever
settles when and whenever it is cancelled, has at most `max 1 warmupConcurrency` requests pending
and starts at most `count`. Each of them has settled or is pending, so that with none pending all
have settled, and they are `count` unless the run was cancelled first. Every state of a run in a
burst lies on such a course; a run waits for the burst while something is pending and leaves it only
with the signal that settles the last of it. -/
theorem bursts_awaited (setup : Setup) (calls : ℕ) :
    (∀ phase count first settled now cancelled r b,
      BurstCourse setup phase count first settled now cancelled r b →
      BurstKept setup phase count first settled r b ∧
      (¬b.wants cancelled → b.pending = [] →
        settled.Perm (List.range b.issued) ∧ (b.issued = count ∨ cancelled = true))) ∧
    (∀ now cancelled r b, Passes setup calls (.within (.burst b)) now cancelled r →
      ∃ first settled, BurstBegins setup calls b.phase b.count first ∧
        BurstCourse setup b.phase b.count first settled now cancelled r b ∧
        startedIn b.phase r.trace = List.range b.issued) ∧
    (∀ now cancelled r, Run.start setup calls cancelled now = .ok r →
      Enters cancelled .warmup r ∨ Enters cancelled .cooldown r) ∧
    (∀ now cancelled r, Reachable setup calls now cancelled r →
      Passes setup calls (.within r.stage) now cancelled r ∧
      (∀ b, r.stage = .burst b → b.pending ≠ [] ∧ ¬b.wants cancelled) ∧
      ∀ s r', now ≤ s.now → (cancelled = true → s.cancelled = true) → r.step s = .ok r' →
        (∀ b, r.stage = .burst b → BurstAnswer b s r r') ∧
        ((∀ b, r.stage ≠ .burst b) → Enters s.cancelled .cooldown r')) ∧
    (∀ phase place now cancelled r, phase.isMeasured = false →
      Passes setup calls place now cancelled r → BurstTold setup phase place cancelled r) ∧
    ∀ g spec r g', Generator.execute g spec = .ok (.ok r, g') →
      ∃ schedule, spec.validate = .ok schedule ∧ ∀ phase, phase.isMeasured = false →
        StartedInFull (burstCount (g.setup spec schedule) r phase) (g.world.isCancelled g'.now)
          (startedIn phase r.trace) .past := by
  refine ⟨?_, ?_, fun now cancelled r => enters_start, ?_, ?_, ?_⟩
  · intro phase count first settled now cancelled r b hcourse
    exact ⟨course_kept hcourse, (course_kept hcourse).complete⟩
  · intro now cancelled r b hpasses
    obtain ⟨first, settled, hbegins, -, hcourse⟩ := passes_burstCourse hpasses
    exact ⟨first, settled, hbegins, hcourse, passes_startedIn hpasses⟩
  · intro now cancelled r hreach
    refine ⟨passes_of_reachable hreach, fun b => burst_waits hreach, ?_⟩
    intro s r' hnow hcancelled hr
    exact ⟨fun b hstage => burstAnswer_step hreach hnow hcancelled hstage hr,
      fun hburst => enters_step hburst hr⟩
  · intro phase place now cancelled r hphase hpasses
    exact passes_burstTold hpasses hphase
  · intro g spec r g' hexecute
    obtain ⟨schedule, hvalid, hreach, hfinished⟩ := reachable_of_execute hexecute
    obtain ⟨report, hreport⟩ := Option.isSome_iff_exists.1 hfinished
    have hpasses := passes_of_reachable hreach
    rw [(passes_report hpasses hreport).1] at hpasses
    exact ⟨schedule, hvalid, fun phase hphase => passes_burstTold hpasses hphase⟩

/-- Two at a time, three requests before the load and two after it. -/
def pairwiseGenerator : Generator :=
  { hurriedGenerator with settings := { warmupConcurrency := 2 }, cancelAt := none }

def flankedSpec : Spec :=
  { concurrency := some 2, duration := .ofMillis 8, warmupRequests := some 3,
    cooldownRequests := some 2 }

def issuedInBurst (r : Run) : ℕ :=
  match r.stage with
  | .burst b => b.issued
  | _ => 0

theorem bursts_awaited_flanked :
    (∃ r b, Run.start (pairwiseGenerator.setup flankedSpec (.concurrency 2)) 0 false 0 = .ok r ∧
      r.stage = .burst b ∧ b.issued = 2 ∧ b.pending.map Pending.id = [0, 1]) ∧
    ∃ r, (executed? pairwiseGenerator flankedSpec).map Prod.fst = some r ∧
      startedIn .warmup r.trace = [0, 1, 2] ∧ startedIn .cooldown r.trace = [0, 1] := by
  constructor
  · have hfigures : (Run.start (pairwiseGenerator.setup flankedSpec (.concurrency 2)) 0 false
        0).toOption.map issuedInBurst = some 2 := by decide +kernel
    obtain ⟨r, hstart, hissued⟩ := Option.map_eq_some_iff.1 hfigures
    unfold issuedInBurst at hissued
    have hstart := ok_of_toOption hstart
    cases hstage : r.stage with
    | burst b =>
      rw [hstage] at hissued
      change b.issued = 2 at hissued
      have hids : b.pending.map Pending.id = List.range b.issued := by
        obtain henters | henters := (bursts_awaited _ 0).2.2.1 0 false r hstart
        · exact (henters b hstage).ids
        · exact (henters b hstage).ids
      exact ⟨r, b, hstart, hstage, hissued, by rw [hids, hissued]; rfl⟩
    | _ =>
      rw [hstage] at hissued
      cases hissued
  · have hfigures : (executed? pairwiseGenerator flankedSpec).map (fun e => e.1.cooldownCount) =
        some 2 := by decide +kernel
    obtain ⟨⟨r, g'⟩, hexecuted, hcount⟩ := Option.map_eq_some_iff.1 hfigures
    obtain ⟨schedule, hvalid, hbursts⟩ :=
      (bursts_awaited (pairwiseGenerator.setup flankedSpec (.concurrency 2)) 0).2.2.2.2.2 _ _ r g'
        (executed?_eq_some.1 hexecuted)
    have hvalid' : flankedSpec.validate = .ok (.concurrency 2) := rfl
    obtain rfl : Schedule.concurrency 2 = schedule := Except.ok.inj (hvalid'.symm.trans hvalid)
    refine ⟨r, by rw [hexecuted]; rfl, (hbursts .warmup rfl).all, ?_⟩
    exact (hbursts .cooldown rfl).all.trans (congrArg List.range hcount)

end LoadTest.Proofs
