import LoadTest.Proofs.RunPassage
import LoadTest.Proofs.Trace
import Mathlib.Data.List.Nodup

/-!
# No request is lost or counted twice

Every measured request that a run starts is in flight until it is recorded, or is abandoned when the
measured part ends; requests of bursts count nowhere. `Conserved` is the invariant: the requests
recorded, in flight and abandoned are a rearrangement of those started, which carry successive
numbers.
-/

namespace LoadTest.Proofs

/-- The measured requests of a run that have been started, by what became of them. -/
def accountedIds (r : Run) : List Nat :=
  r.runner.outcomes.map Outcome.id ++ (r.abandoned.map Pending.id ++
    r.runner.inFlight.map Pending.id)

/-- Every request that was started is accounted for, and every call of the target is a request. -/
structure Balanced (setup : Setup) (calls : Nat) (r : Run) : Prop where
  accounted : (accountedIds r).Perm (measuredIds r.trace)
  numbered : measuredIds r.trace = List.range' setup.firstId (measuredIds r.trace).length
  next : r.runner.nextId = setup.firstId + (measuredIds r.trace).length
  called : r.calls = calls + (measuredIds r.trace).length + (burstIds r.trace).length

/-- What is kept of the requests of a run in each part of it. -/
structure Conserved (setup : Setup) (calls : Nat) (part : Part) (r : Run) : Prop where
  balanced : Balanced setup calls r
  warmup : part = .warmup → measuredIds r.trace = []
  measured : part = .measured → r.abandoned = []
  cooldown : part = .cooldown → r.runner.inFlight = []

section Balance

variable {setup : Setup} {calls now : Nat} {r r' : Run}

namespace Balanced

lemma nodup (h : Balanced setup calls r) : (accountedIds r).Nodup := by
  rw [h.accounted.nodup_iff, h.numbered]
  exact List.nodup_range'

/-- Nothing changes while no request is started. -/
lemma of_not_issued {notes : List Note} (h : Balanced setup calls r)
    (htrace : r'.trace = r.trace ++ notes)
    (hnotes : ∀ phase id time, .issued phase id time ∉ notes)
    (haccounted : (accountedIds r').Perm (accountedIds r))
    (hnext : r'.runner.nextId = r.runner.nextId) (hcalls : r'.calls = r.calls) :
    Balanced setup calls r' := by
  obtain ⟨hmeasured, hburst⟩ := ids_of_not_issued hnotes
  have hids : measuredIds r'.trace = measuredIds r.trace := by simp [htrace, hmeasured]
  constructor
  · rw [hids]
    exact haccounted.trans h.accounted
  · rw [hids]
    exact h.numbered
  · rw [hids, hnext, h.next]
  · rw [hids, htrace, burstIds_append, hburst, List.append_nil, hcalls, h.called]

/-- A measured request takes the next number and is in flight. -/
lemma of_issuedRun {phase : Phase} (h : Balanced setup calls r)
    (hphase : phase.isMeasured = true) : Balanced setup calls (issuedRun r phase now) := by
  obtain ⟨hmeasured, hburst⟩ := measuredIds_issued hphase r.runner.nextId now
  have hids : measuredIds (issuedRun r phase now).trace =
      measuredIds r.trace ++ [r.runner.nextId] := by simp [hmeasured]
  constructor
  · have haccounted : accountedIds (issuedRun r phase now) =
        accountedIds r ++ [r.runner.nextId] := by simp [accountedIds, issuedRunner]
    rw [hids, haccounted]
    exact h.accounted.append_right _
  · rw [hids, List.length_append, List.length_singleton, List.range'_concat, ← h.numbered, h.next]
    simp
  · rw [hids, List.length_append, List.length_singleton, ← Nat.add_assoc, ← h.next]
    simp [issuedRunner]
  · have hcalled := h.called
    simp only [issuedRun_fields, issuedRun_trace, measuredIds_append, burstIds_append, hmeasured,
      hburst, List.length_append, List.length_singleton, List.length_nil]
    omega

/-- A request of a burst is called and no more. -/
lemma of_issueBurst {b : Burst} (h : Balanced setup calls r)
    (hphase : b.phase.isMeasured = false) : Balanced setup calls (r.issueBurst b now) := by
  obtain ⟨hmeasured, hburst⟩ := burstIds_issued hphase b.issued now
  have hids : measuredIds (r.issueBurst b now).trace = measuredIds r.trace := by simp [hmeasured]
  constructor
  · rw [hids]
    exact h.accounted
  · rw [hids]
    exact h.numbered
  · rw [hids]
    exact h.next
  · have hcalled := h.called
    rw [hids]
    simp only [issueBurst_fields, issueBurst_trace, burstIds_append, hburst, List.length_append,
      List.length_singleton]
    omega

end Balanced

/-- A request that settles moves from those in flight to those recorded. -/
lemma accountedIds_of_settles {runner : Runner} (h : (accountedIds r).Nodup)
    (hsettles : Settles r.runner runner) :
    (accountedIds { r with runner }).Perm (accountedIds r) := by
  obtain ⟨p, hp, o, hid, rfl⟩ := hsettles
  -- All requests of the number are taken out, and numbers in flight differ: one is taken out.
  have hflight : (r.runner.inFlight.map Pending.id).Perm
      (p.id :: (r.runner.inFlight.filter fun q => q.id ≠ p.id).map Pending.id) := by
    have hnodup : (r.runner.inFlight.map Pending.id).Nodup := h.of_append_right.of_append_right
    have herase : (r.runner.inFlight.filter fun q => q.id ≠ p.id).map Pending.id =
        (r.runner.inFlight.map Pending.id).erase p.id := by
      rw [hnodup.erase_eq_filter, List.filter_map]
      congr 2
      funext q
      by_cases hq : q.id = p.id <;> simp [hq]
    rw [herase]
    exact List.perm_cons_erase (List.mem_map_of_mem hp)
  simp only [accountedIds, List.map_append, List.map_cons, List.map_nil, hid, List.append_assoc]
  refine List.Perm.append_left _ ?_
  exact ((hflight.append_left _).trans List.perm_middle).symm

end Balance

/-- `r'` comes after `r` without a request having been started or settled in between. -/
structure Idles (r r' : Run) : Prop where
  trace : ∃ notes, r'.trace = r.trace ++ notes ∧ ∀ phase id time, .issued phase id time ∉ notes
  outcomes : r'.runner.outcomes = r.runner.outcomes
  inFlight : r'.runner.inFlight = r.runner.inFlight
  nextId : r'.runner.nextId = r.runner.nextId
  calls : r'.calls = r.calls
  abandoned : r'.abandoned = r.abandoned

section Idles

variable {r : Run} {now : Nat}

lemma idles_note {notes : List Note}
    (h : ∀ phase id time, .issued phase id time ∉ notes.filter fun n => !n.isLine) :
    Idles r (r.note notes) :=
  ⟨⟨_, note_trace r notes, h⟩, rfl, rfl, rfl, rfl, rfl⟩

lemma idles_stage (stage : Stage) : Idles r { r with stage } :=
  ⟨⟨[], (List.append_nil _).symm, by simp⟩, rfl, rfl, rfl, rfl, rfl⟩

lemma idles_runner {runner : Runner} (houtcomes : runner.outcomes = r.runner.outcomes)
    (hflight : runner.inFlight = r.runner.inFlight) (hnext : runner.nextId = r.runner.nextId) :
    Idles r { r with runner } :=
  ⟨⟨[], (List.append_nil _).symm, by simp⟩, houtcomes, hflight, hnext, rfl, rfl⟩

lemma idles_beginHold (phase : Phase) (level : Float) (deadline : Nat) :
    Idles r (r.beginHold phase level deadline now).1 := by
  constructor
  · exact ⟨[], by simp, by simp⟩
  all_goals simp

lemma idles_rampingDown (cutShort : Bool) : Idles r (r.rampingDown cutShort) := by
  constructor
  · exact ⟨_, rampingDown_trace r cutShort, by simp⟩
  all_goals simp

end Idles

namespace Conserved

variable {setup : Setup} {calls now : Nat} {part : Part} {r r' : Run}

/-- In the measured part only the balance is at stake, and that nothing is abandoned. -/
lemma of_balanced (h : Conserved setup calls .measured r) (hbalanced : Balanced setup calls r')
    (habandoned : r'.abandoned = r.abandoned) : Conserved setup calls .measured r' := by
  refine ⟨hbalanced, by simp, ?_, by simp⟩
  rw [habandoned]
  exact h.measured

lemma of_idles (h : Conserved setup calls part r) (hidles : Idles r r') :
    Conserved setup calls part r' := by
  obtain ⟨notes, htrace, hnotes⟩ := hidles.trace
  have haccounted : accountedIds r' = accountedIds r := by
    rw [accountedIds, hidles.outcomes, hidles.inFlight, hidles.abandoned, accountedIds]
  constructor
  · exact h.balanced.of_not_issued htrace hnotes (.of_eq haccounted) hidles.nextId hidles.calls
  · rw [htrace, measuredIds_append, (ids_of_not_issued hnotes).1, List.append_nil]
    exact h.warmup
  · rw [hidles.abandoned]
    exact h.measured
  · rw [hidles.inFlight]
    exact h.cooldown

lemma of_issuedRun {phase : Phase} (h : Conserved setup calls .measured r)
    (hphase : phase.isMeasured = true) :
    Conserved setup calls .measured (issuedRun r phase now) :=
  h.of_balanced (h.balanced.of_issuedRun hphase) (by simp)

lemma of_arrive {phase : Phase} (h : Conserved setup calls .measured r)
    (hphase : phase.isMeasured = true) (harrive : r.arrive phase now = .ok r') :
    Conserved setup calls .measured r' := by
  obtain ⟨-, rfl⟩ | ⟨-, -, rfl⟩ := arrive_ok harrive
  · have hskipped : Conserved setup calls .measured
        { r with runner := { r.runner with skipped := r.runner.skipped + 1 } } :=
      h.of_idles (idles_runner rfl rfl rfl)
    exact hskipped.of_idles (idles_note (by simp))
  · exact h.of_issuedRun hphase

lemma of_record {settled : Option Settlement} (h : Conserved setup calls .measured r)
    (hrecord : r.record now settled = .ok r') : Conserved setup calls .measured r' := by
  obtain ⟨runner, notes, hnotes, rfl, hrunner⟩ := record_ok hrecord
  refine h.of_balanced (h.balanced.of_not_issued (note_trace ..) (by simp [hnotes]) ?_ ?_ rfl) rfl
  · obtain rfl | hsettles := hrunner
    · exact .refl _
    · exact accountedIds_of_settles h.balanced.nodup hsettles
  · obtain rfl | ⟨_, _, _, _, rfl⟩ := hrunner
    · rfl
    · rfl

lemma of_reportProgress {phase : Phase} (h : Conserved setup calls part r)
    (hreport : r.reportProgress phase now = .ok r') : Conserved setup calls part r' := by
  obtain ⟨-, rfl⟩ | ⟨-, elapsed, nextProgress, -, -, rfl⟩ := reportProgress_ok hreport
  · exact h
  · have hpaced : Conserved setup calls part { r with runner := { r.runner with nextProgress } } :=
      h.of_idles (idles_runner rfl rfl rfl)
    exact hpaced.of_idles (idles_note (by simp))

lemma of_issueBurst {b : Burst} (h : Conserved setup calls part r)
    (hphase : b.phase.isMeasured = false) : Conserved setup calls part (r.issueBurst b now) := by
  refine ⟨h.balanced.of_issueBurst hphase, ?_, h.measured, h.cooldown⟩
  simpa [burstIds_issued hphase] using h.warmup

/-- Nothing has been measured when the measured part begins. -/
lemma of_measured (hsetup : r.setup = setup) (h : Conserved setup calls .warmup r) :
    Conserved setup calls .measured (r.measured now) := by
  have hnone : measuredIds r.trace = [] := h.warmup rfl
  have haccounted : accountedIds r = [] := by
    have hperm := h.balanced.accounted
    rw [hnone] at hperm
    exact hperm.eq_nil
  have habandoned : r.abandoned = [] := by
    simp only [accountedIds, List.append_eq_nil_iff, List.map_eq_nil_iff] at haccounted
    exact haccounted.2.1
  have hcalled := h.balanced.called
  refine ⟨⟨?_, ?_, ?_, ?_⟩, by simp, ?_, by simp⟩
  · simp [accountedIds, habandoned, hnone]
  · simp [hnone]
  · simp [hnone, hsetup]
  · simpa [hnone] using hcalled
  · simp [habandoned]

/-- What is in flight when the measured part ends is abandoned. -/
lemma of_drained {elapsed : Duration} (h : Conserved setup calls .measured r) :
    Conserved setup calls .cooldown (r.drained elapsed now) := by
  have haccounted : accountedIds (r.drained elapsed now) = accountedIds r := by
    simp [accountedIds, h.measured]
  have hbalanced := h.balanced.of_not_issued (drained_trace r now elapsed) (by simp)
    (.of_eq haccounted) (by simp) (by simp)
  exact ⟨hbalanced, by simp, by simp, by simp⟩

lemma of_complete (h : Conserved setup calls .cooldown r) (hcomplete : r.complete = .ok r') :
    Conserved setup calls .cooldown r' := by
  obtain ⟨report, hreport, rfl⟩ := complete_ok hcomplete
  have haccounted : accountedIds (r.completed report) = accountedIds r := by simp [accountedIds]
  have hbalanced := h.balanced.of_not_issued (completed_trace r _) (by simp)
    (.of_eq haccounted) (by simp) (by simp)
  exact ⟨hbalanced, by simp, by simp, by simpa using h.cooldown⟩

end Conserved

section Passage

variable {setup : Setup} {calls now : Nat} {cancelled : Bool} {place : Place} {r : Run}

theorem passes_conserved (h : Passes setup calls place now cancelled r) :
    Conserved setup calls place.part r := by
  -- Most actions only leave notes; requests change where one is started, settles or is abandoned.
  induction h with
  | opened =>
    refine ⟨⟨?_, ?_, ?_, ?_⟩, ?_, ?_, ?_⟩
    all_goals simp [Run.opened, Run.trace, accountedIds, ids_of_not_issued, Place.part]
  | elapse _ _ _ ih | skipWarmup _ _ ih | skipCooldown _ _ ih | skipRise _ ih => exact ih
  | wait _ ih => exact ih.of_idles (idles_stage _)
  | beginWarmup _ _ ih | beginCooldown _ _ ih | beginRise _ _ ih | endStep _ _ ih | endRise _ ih =>
    exact ih.of_idles (idles_note (by simp))
  | settleBurst s _ ih =>
    exact ih.of_idles (idles_note (by rw [ending_notes_filter]; simp))
  | issueBurst h hwants ih =>
    refine ih.of_issueBurst ?_
    obtain hphase | hphase : _ ∨ _ := passes_wellFormed h
    · rw [hphase]
      rfl
    · rw [hphase]
      rfl
  | endWarmup _ hphase _ _ ih =>
    rw [Place.part, if_pos hphase] at ih
    exact (ih.of_idles (idles_note (by simp))).of_idles (idles_note (by simp))
  | endCooldown _ hphase _ _ ih =>
    rw [Place.part, hphase, if_neg (by decide)] at ih
    exact (ih.of_idles (idles_note (by simp))).of_idles (idles_note (by simp))
  | beginMeasured h _ ih => exact ih.of_measured (passes_setup h)
  | beginStep _ _ ih =>
    exact (ih.of_idles (idles_note (by simp))).of_idles (idles_beginHold ..)
  | beginSustained _ _ ih =>
    exact (ih.of_idles (idles_note (by simp))).of_idles (idles_beginHold ..)
  | beginRampDown _ _ ih => exact ih.of_idles (idles_rampingDown _)
  | refill h hhold _ _ _ hissue ih =>
    obtain ⟨-, rfl⟩ := issue_ok hissue
    rw [part_of_hold hhold] at ih ⊢
    exact ih.of_issuedRun (isMeasured_of_hold (passes_wellFormed h) hhold)
  | arrive h hhold _ _ harrive ih =>
    rw [part_of_hold hhold] at ih ⊢
    exact ih.of_arrive (isMeasured_of_hold (passes_wellFormed h) hhold) harrive
  | schedule _ _ _ _ ih => exact ih.of_idles (idles_runner rfl rfl rfl)
  | reportProgress _ _ hreport ih => exact ih.of_reportProgress hreport
  | record _ hstage hrecord ih =>
    rw [hstage] at ih ⊢
    exact ih.of_record hrecord
  | cutRise _ ih | endSustained _ _ ih | cutSustained _ ih =>
    exact (ih.of_idles (idles_note (by simp))).of_idles (idles_note (by simp))
  | endRampDown _ _ _ ih => exact ih.of_drained
  | complete _ hcomplete ih => exact ih.of_complete hcomplete

/-- A report of progress accounts for all measured requests started before it. -/
def ProgressAddsUp (before : List Note) : Note → Prop
  | .event (.progress _ _ completed inFlight _) =>
    completed + inFlight = (measuredIds before).length
  | _ => True

lemma passes_progressAddsUp (h : Passes setup calls place now cancelled r) :
    Throughout ProgressAddsUp r.trace := by
  induction h with
  | elapse _ _ _ ih | skipWarmup _ _ ih | skipCooldown _ _ ih | skipRise _ ih | wait _ ih
  | schedule _ _ _ _ ih => exact ih
  | reportProgress h hhold hreport ih =>
    obtain ⟨-, rfl⟩ | ⟨-, elapsed, nextProgress, -, -, rfl⟩ := reportProgress_ok hreport
    · exact ih
    · -- Nothing is abandoned while load is held, so that the balance has two sides only.
      have hconserved := passes_conserved h
      rw [part_of_hold hhold] at hconserved
      have hlength := hconserved.balanced.accounted.length_eq
      simp only [accountedIds, hconserved.measured, List.map_nil, List.nil_append,
        List.length_append, List.length_map] at hlength
      simpa [throughout_append, ProgressAddsUp, hlength] using ih
  | settleBurst s _ ih => simpa [ending_notes_filter] using ih
  | refill _ _ _ _ _ hissue ih =>
    obtain ⟨-, rfl⟩ := issue_ok hissue
    simpa [throughout_append, ProgressAddsUp] using ih
  | arrive _ _ _ _ harrive ih =>
    obtain ⟨-, rfl⟩ | ⟨-, -, rfl⟩ := arrive_ok harrive
    · simpa using ih
    · simpa [throughout_append, ProgressAddsUp] using ih
  | record _ _ hrecord ih =>
    obtain ⟨runner, notes, hnotes, rfl, -⟩ := record_ok hrecord
    simpa [hnotes] using ih
  | complete _ hcomplete ih =>
    obtain ⟨report, -, rfl⟩ := complete_ok hcomplete
    simpa [throughout_append, ProgressAddsUp] using ih
  | _ => simp_all [throughout_append, ProgressAddsUp]

/-- The measured requests started so far are those recorded and those in flight, each once. -/
structure Accounted (first : Nat) (runner : Runner) : Prop where
  recorded : (runner.outcomes.map Outcome.id).Nodup
  inFlight : (runner.inFlight.map Pending.id).Nodup
  disjoint : (runner.outcomes.map Outcome.id).Disjoint (runner.inFlight.map Pending.id)
  exact : ∀ id, id ∈ runner.outcomes.map Outcome.id ∨ id ∈ runner.inFlight.map Pending.id ↔
    first ≤ id ∧ id < runner.nextId

/-- A report tells of every measured request that the run started, and of no other call. -/
structure ReportedInFull (calls : Nat) (r : Run) (report : Report) : Prop where
  recorded : report.totalRequests = r.runner.outcomes.length
  total : report.totalRequests + report.abandonedRequests = (measuredIds r.trace).length
  distinct : (r.runner.outcomes.map Outcome.id).Nodup
  calls : r.calls = calls + (measuredIds r.trace).length + (burstIds r.trace).length

/-- Every measured request that has been started is told of, wherever a run stands. -/
structure RequestsKept (first calls : Nat) (place : Place) (r : Run) : Prop where
  measured : place.part = .measured → Accounted first r.runner
  progress : Throughout ProgressAddsUp r.trace
  report : ∀ report, r.report = some report → ReportedInFull calls r report

lemma Conserved.accounted (h : Conserved setup calls .measured r) :
    Accounted setup.firstId r.runner := by
  have hids : accountedIds r =
      r.runner.outcomes.map Outcome.id ++ r.runner.inFlight.map Pending.id := by
    rw [accountedIds, h.measured rfl, List.map_nil, List.nil_append]
  have hnodup := h.balanced.nodup
  rw [hids, List.nodup_append'] at hnodup
  obtain ⟨hrecorded, hflight, hdisjoint⟩ := hnodup
  refine ⟨hrecorded, hflight, hdisjoint, fun id => ?_⟩
  rw [← List.mem_append, ← hids, h.balanced.accounted.mem_iff, h.balanced.numbered,
    List.mem_range'_1, h.balanced.next]

lemma passes_reportedInFull {report : Report} (h : Passes setup calls place now cancelled r)
    (hreport : r.report = some report) : ReportedInFull calls r report := by
  obtain ⟨rfl, htotal, habandoned⟩ := passes_report h hreport
  have hconserved := passes_conserved h
  have hlength := hconserved.balanced.accounted.length_eq
  simp only [accountedIds, hconserved.cooldown rfl, List.map_nil, List.append_nil,
    List.length_append, List.length_map] at hlength
  refine ⟨htotal, ?_, hconserved.balanced.nodup.of_append_left, hconserved.balanced.called⟩
  rw [htotal, habandoned, hlength]

lemma passes_requestsKept (h : Passes setup calls place now cancelled r) :
    RequestsKept setup.firstId calls place r := by
  refine ⟨fun hpart => ?_, passes_progressAddsUp h, fun report => passes_reportedInFull h⟩
  have hconserved := passes_conserved h
  rw [hpart] at hconserved
  exact hconserved.accounted

end Passage

/-- Requests are conserved: at every point of the measured part those recorded and those in flight
are the requests started so far, every report of progress adds up to them, and the report on the run
tells of all of them and of no request of a burst. This holds at every state that a run passes,
whatever settles and whenever it is cancelled, and so of every run that a generator executes. -/
theorem requests_conserved (g : Generator) (spec : Spec) (schedule : Schedule)
    (hvalid : spec.validate = .ok schedule) :
    (∀ place now cancelled r, Passes (g.setup spec schedule) g.calls place now cancelled r →
      RequestsKept g.firstId g.calls place r) ∧
    (∀ now cancelled r, Reachable (g.setup spec schedule) g.calls now cancelled r →
      Passes (g.setup spec schedule) g.calls (.within r.stage) now cancelled r) ∧
    ∀ r g', g.execute spec = .ok (.ok r, g') →
      Reachable (g.setup spec schedule) g.calls g'.now (g.world.isCancelled g'.now) r ∧
      ∃ report, r.report = some report ∧ ReportedInFull g.calls r report := by
  refine ⟨fun place now cancelled r => passes_requestsKept,
    fun now cancelled r => passes_of_reachable, fun r g' hexecute => ?_⟩
  obtain ⟨schedule', hvalid', hreach, hfinished⟩ := reachable_of_execute hexecute
  obtain rfl : schedule = schedule' := Except.ok.inj (hvalid.symm.trans hvalid')
  obtain ⟨report, hreport⟩ := Option.isSome_iff_exists.1 hfinished
  have hkept := passes_requestsKept (passes_of_reachable hreach)
  exact ⟨hreach, report, hreport, hkept.report report hreport⟩

/-- A target whose calls take four milliseconds, and a run with a warmup that is cancelled. -/
def hurriedGenerator : Generator :=
  { script := { calls := [{ delay := .ofMillis 4 }] }, firstId := 7, cancelAt := some 15000000 }

def hurriedSpec : Spec :=
  { concurrency := some 2, duration := .ofMillis 100, warmupRequests := some 3 }

theorem requests_conserved_hurried :
    hurriedSpec.validate = .ok (.concurrency 2) ∧
    ∃ r report, (executed? hurriedGenerator hurriedSpec).map Prod.fst = some r ∧
      r.report = some report ∧ report.totalRequests = 4 ∧ report.abandonedRequests = 2 ∧
      (measuredIds r.trace).length = 6 ∧ (burstIds r.trace).length = 3 := by
  have hvalid : hurriedSpec.validate = .ok (.concurrency 2) := rfl
  refine ⟨hvalid, ?_⟩
  have hfigures : (executed? hurriedGenerator hurriedSpec).map (fun e =>
      (e.1.calls, e.1.report.map fun report => (report.totalRequests, report.abandonedRequests))) =
      some (9, some (4, 2)) := by decide +kernel
  obtain ⟨⟨r, g'⟩, hexecuted, hfigures⟩ := Option.map_eq_some_iff.1 hfigures
  obtain ⟨-, report, hreport, hfull⟩ :=
    (requests_conserved hurriedGenerator hurriedSpec _ hvalid).2.2 r g'
      (executed?_eq_some.1 hexecuted)
  have hcalls : r.calls = 9 := congrArg Prod.fst hfigures
  have hcounts : (report.totalRequests, report.abandonedRequests) = (4, 2) := by
    simpa [hreport] using congrArg Prod.snd hfigures
  obtain ⟨htotal, habandoned⟩ := Prod.mk.inj hcounts
  have hmeasured := hfull.total
  have hburst := hfull.calls
  rw [htotal, habandoned] at hmeasured
  rw [hcalls, ← hmeasured, show hurriedGenerator.calls = 0 from rfl] at hburst
  exact ⟨r, report, by rw [hexecuted]; rfl, hreport, htotal, habandoned, hmeasured.symm, by omega⟩

end LoadTest.Proofs
