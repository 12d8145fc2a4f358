import LoadTest.Proofs.EventGrammar
import LoadTest.Proofs.HoldDeadlines

/-!
# The cadence of progress

The measured part of a run is divided into intervals, counted from its beginning. A run reports
progress when it is woken in an interval that has not been reported on, so that a run that is woken
late passes over the intervals that it missed and does not drift. `Paced` is the invariant: the next
report is due when a whole number of intervals has passed, and every report so far was published
before that, in an interval of its own.
-/

namespace LoadTest.Proofs

def reportTime? : Event → Option Duration
  | .progress _ _ _ _ elapsed => some elapsed
  | _ => none

/-- The times of the reports of progress, in order. -/
def reportTimes (r : Run) : List Duration := r.events.filterMap reportTime?

/-- The interval that a time lies in, counted from the beginning of the measured part. -/
def intervalOf (setup : Setup) (elapsed : Duration) : ℕ := elapsed.nanos / setup.progressInterval

/-- What a run keeps of its reports of progress in each part of it. -/
structure Paced (setup : Setup) (part : Part) (r : Run) : Prop where
  unreported : part = .warmup → reportTimes r = []
  due : part ≠ .warmup → ∃ j, 1 ≤ j ∧
    r.runner.nextProgress = r.runner.clock + j * setup.progressInterval
  past : ∀ elapsed ∈ reportTimes r, r.runner.clock + elapsed.nanos < r.runner.nextProgress
  ascending : ((reportTimes r).map (intervalOf setup)).Pairwise (· < ·)

/-- A run reports progress at `now`, and next when the interval of this report is over. -/
structure ReportsAt (setup : Setup) (phase : Phase) (now : ℕ) (r r' : Run) (elapsed : Duration) :
    Prop where
  time : r.runner.clock + elapsed.nanos = now
  events : r'.events = r.events ++ [.progress setup.runId phase r.runner.outcomes.length
    r.runner.inFlight.length elapsed]
  clock : r'.runner.clock = r.runner.clock
  next : r'.runner.nextProgress =
    r.runner.clock + (intervalOf setup elapsed + 1) * setup.progressInterval
  later : now < r'.runner.nextProgress

/-- The times that are due are passed over one by one until the first that lies past `now`. -/
lemma firstPast_rounds (interval : ℕ) (positive : 0 < interval) (now t : ℕ) :
    ∃ rounds, firstPast interval positive now t = t + rounds * interval ∧
      now < t + rounds * interval ∧ ∀ k < rounds, t + k * interval ≤ now := by
  fun_induction firstPast interval positive now t with
  | case1 t hdue ih =>
    obtain ⟨rounds, hfirst, hpast, hbefore⟩ := ih
    have hshift : ∀ k, t + (k + 1) * interval = t + interval + k * interval := by
      intro k
      ring
    refine ⟨rounds + 1, by rw [hfirst, hshift], by rwa [hshift], fun k hk => ?_⟩
    cases k with
    | zero => simpa using hdue
    | succ k =>
      rw [hshift]
      exact hbefore k (by omega)
  | case2 t hdue =>
    exact ⟨0, by simp, by simpa using hdue, fun k hk => absurd hk (Nat.not_lt_zero k)⟩

section Passage

variable {setup : Setup} {calls now : ℕ} {cancelled : Bool} {place : Place} {part part' : Part}
  {r r' : Run} {phase : Phase}

@[simp] lemma beginHold_nextProgress (r : Run) (level : Float) (deadline now : ℕ) :
    (r.beginHold phase level deadline now).1.runner.nextProgress = r.runner.nextProgress := by
  unfold Run.beginHold
  cases r.setup.schedule <;> rfl

namespace Paced

/-- Nothing changes while no progress is reported. -/
lemma of_events {new : List Event} (h : Paced setup part r)
    (hpart : part' = part ∨ part ≠ .warmup ∧ part' ≠ .warmup)
    (hevents : r'.events = r.events ++ new) (hnew : new.filterMap reportTime? = [])
    (hclock : r'.runner.clock = r.runner.clock)
    (hnext : r'.runner.nextProgress = r.runner.nextProgress) : Paced setup part' r' := by
  have hreports : reportTimes r' = reportTimes r := by
    rw [reportTimes, hevents, List.filterMap_append, hnew, List.append_nil, reportTimes]
  constructor
  · intro hwarmup
    obtain rfl | ⟨-, hpart'⟩ := hpart
    · rw [hreports, h.unreported hwarmup]
    · exact absurd hwarmup hpart'
  · intro hpart'
    rw [hclock, hnext]
    obtain rfl | ⟨hpart, -⟩ := hpart
    · exact h.due hpart'
    · exact h.due hpart
  · rw [hreports, hclock, hnext]
    exact h.past
  · rw [hreports]
    exact h.ascending

lemma of_silent (h : Paced setup part r) (hevents : r'.events = r.events)
    (hclock : r'.runner.clock = r.runner.clock)
    (hnext : r'.runner.nextProgress = r.runner.nextProgress) : Paced setup part r' :=
  h.of_events (.inl rfl) (hevents.trans (List.append_nil _).symm) rfl hclock hnext

lemma of_note {notes : List Note} (h : Paced setup part r)
    (hnotes : (notes.filterMap Note.event?).filterMap reportTime? = []) :
    Paced setup part (r.note notes) :=
  h.of_events (.inl rfl) (note_events ..) hnotes rfl rfl

lemma of_beginHold {level : Float} {deadline : ℕ} (h : Paced setup part r) :
    Paced setup part (r.beginHold phase level deadline now).1 :=
  h.of_silent (by simp) (by simp) (by simp)

/-- A report that is due is published, and its due time moves on to the end of the interval that
`now` lies in: where it was due after `j` intervals, it is due again `rounds` of them later. -/
lemma reportsAt (h : Paced setup part r) (hpart : part ≠ .warmup) (hsetup : r.setup = setup)
    (hdue : r.runner.nextProgress ≤ now) (hreport : r.reportProgress phase now = .ok r') :
    ∃ elapsed, ReportsAt setup phase now r r' elapsed := by
  obtain ⟨hearly, -⟩ | ⟨-, elapsed, next, helapsed, hnext, rfl⟩ := reportProgress_ok hreport
  · omega
  obtain ⟨-, hnext⟩ := clockReading_eq_ok.1 hnext
  obtain ⟨j, hj, hticks⟩ := h.due hpart
  obtain ⟨rounds, hfirst, hpast, hbefore⟩ := firstPast_rounds r.setup.progressInterval
    r.setup.progressInterval_pos now r.runner.nextProgress
  rw [hsetup] at hfirst hpast hbefore hnext
  have htime : r.runner.clock + elapsed.nanos = now := by
    rw [between_eq helapsed]
    omega
  have hrounds : rounds ≠ 0 := by
    rintro rfl
    omega
  have hlast := hbefore (rounds - 1) (by omega)
  have hsucc : j + (rounds - 1) + 1 = j + rounds := by omega
  have hinterval : intervalOf setup elapsed = j + (rounds - 1) := by
    refine Nat.div_eq_of_lt_le ?_ ?_
    · rw [Nat.add_mul]
      omega
    · rw [hsucc, Nat.add_mul]
      omega
  have hnext' : next =
      r.runner.clock + (intervalOf setup elapsed + 1) * setup.progressInterval := by
    rw [hnext, hfirst, hticks, hinterval, hsucc, Nat.add_mul, Nat.add_assoc]
  refine ⟨elapsed, htime, ?_, rfl, hnext', ?_⟩
  · rw [← hsetup]
    exact note_events ..
  · change now < next
    rw [hnext, hfirst]
    exact hpast

/-- A report comes in a later interval than all reports before it. -/
lemma of_reportsAt {elapsed : Duration} (h : Paced setup part r) (hpart : part ≠ .warmup)
    (hdue : r.runner.nextProgress ≤ now) (hreport : ReportsAt setup phase now r r' elapsed) :
    Paced setup part r' := by
  have hreports : reportTimes r' = reportTimes r ++ [elapsed] := by
    unfold reportTimes
    rw [hreport.events, List.filterMap_append]
    rfl
  have htime := hreport.time
  have hlater := hreport.later
  constructor
  · exact fun hwarmup => absurd hwarmup hpart
  · intro _
    exact ⟨_, Nat.le_add_left 1 _, by rw [hreport.next, hreport.clock]⟩
  · intro earlier hearlier
    rw [hreports, List.mem_append, List.mem_singleton] at hearlier
    rw [hreport.clock]
    obtain hearlier | rfl := hearlier
    · have hpast := h.past earlier hearlier
      omega
    · omega
  · rw [hreports, List.map_append, List.map_singleton, List.pairwise_append]
    refine ⟨h.ascending, List.pairwise_singleton .., fun k hk l hl => ?_⟩
    obtain ⟨earlier, hearlier, rfl⟩ := List.mem_map.1 hk
    rw [List.mem_singleton.1 hl]
    -- The due time is a multiple of the interval that lies between the two reports.
    obtain ⟨j, -, hticks⟩ := h.due hpart
    have hpast := h.past earlier hearlier
    have hbelow : intervalOf setup earlier < j :=
      Nat.div_lt_of_lt_mul (by rw [Nat.mul_comm]; omega)
    have habove : j ≤ intervalOf setup elapsed :=
      (Nat.le_div_iff_mul_le setup.progressInterval_pos).2 (by omega)
    omega

lemma count_le_one (h : Paced setup part r) (k : ℕ) :
    ((reportTimes r).map (intervalOf setup)).count k ≤ 1 :=
  List.nodup_iff_count_le_one.1 (h.ascending.imp Nat.ne_of_lt) k

end Paced

lemma not_warmup_of_hold {stage : Stage} {hold : Hold} (h : stage.hold? = some hold) :
    (Place.within stage).part ≠ .warmup := by
  rw [part_of_hold h]
  decide

lemma passes_paced (h : Passes setup calls place now cancelled r) :
    Paced setup place.part r := by
  induction h with
  | opened => exact ⟨fun _ => rfl, fun hpart => absurd rfl hpart, nofun, .nil⟩
  | @beginMeasured _ now _ r h _ ih =>
    have hnone : reportTimes (r.measured now) = [] := by
      rw [reportTimes, (measured_told r now).1]
      exact ih.unreported rfl
    refine ⟨fun _ => hnone, fun _ => ⟨1, le_rfl, by simp [passes_setup h]⟩, ?_, ?_⟩
    · rw [hnone]
      exact nofun
    · rw [hnone]
      exact .nil
  | reportProgress h hhold hreport ih =>
    obtain ⟨-, rfl⟩ | ⟨hdue, -⟩ := reportProgress_ok hreport
    · exact ih
    · have hpart := not_warmup_of_hold hhold
      obtain ⟨elapsed, hat⟩ := ih.reportsAt hpart (passes_setup h) hdue hreport
      exact ih.of_reportsAt hpart hdue hat
  | elapse _ _ _ ih | skipWarmup _ _ ih | skipCooldown _ _ ih | skipRise _ ih => exact ih
  | wait _ ih | schedule _ _ _ _ ih => exact ih.of_silent rfl rfl rfl
  | beginWarmup _ _ ih | beginCooldown _ _ ih | beginRise _ _ ih | endStep _ _ ih
  | endRise _ ih => exact ih.of_note rfl
  | cutRise _ ih | endSustained _ _ ih | cutSustained _ ih =>
    exact (ih.of_note rfl).of_note rfl
  | endWarmup _ hphase _ _ ih =>
    rw [show (Place.within (.burst _)).part = _ from if_pos hphase] at ih
    exact (ih.of_note rfl).of_note rfl
  | endCooldown _ hphase _ _ ih =>
    rw [show (Place.within (.burst _)).part = _ from if_neg (by rw [hphase]; decide)] at ih
    exact (ih.of_note rfl).of_note rfl
  | issueBurst _ _ ih => exact ih.of_silent (by simp [events_eq_trace]) rfl rfl
  | settleBurst _ _ ih =>
    exact ih.of_silent (by simp [events_eq_trace, ending_notes_filter]) rfl rfl
  | beginStep _ _ ih | beginSustained _ _ ih => exact (ih.of_note rfl).of_beginHold
  | beginRampDown _ _ ih =>
    exact ih.of_events (.inl rfl) (rampingDown_told ..).1 rfl (by simp) (by simp)
  | refill _ _ _ _ _ hissue ih =>
    obtain ⟨-, rfl⟩ := issue_ok hissue
    exact ih.of_silent (by simp [events_eq_trace]) rfl rfl
  | arrive _ _ _ _ harrive ih =>
    obtain ⟨-, rfl⟩ | ⟨-, -, rfl⟩ := arrive_ok harrive
    · exact ih.of_silent (by simp [events_eq_trace]) rfl rfl
    · exact ih.of_silent (by simp [events_eq_trace]) rfl rfl
  | record _ _ hrecord ih =>
    obtain ⟨runner, notes, hnotes, rfl, rfl | ⟨_, _, _, _, rfl⟩⟩ := record_ok hrecord
    · exact ih.of_silent (by simp [events_eq_trace, hnotes]) rfl rfl
    · exact ih.of_silent (by simp [events_eq_trace, hnotes]) rfl rfl
  | endRampDown _ _ _ ih =>
    exact ih.of_events (.inr ⟨nofun, nofun⟩) (drained_told ..).1 rfl (by simp) (by simp)
  | complete _ hcomplete ih =>
    obtain ⟨report, -, rfl⟩ := complete_ok hcomplete
    exact ih.of_events (.inl rfl) (completed_told ..).1 rfl (by simp) (by simp)

/-- A run that checks its progress reports it if it is due, and otherwise goes on as it was. -/
lemma reportProgress_cases {stage : Stage} {hold : Hold}
    (h : Passes setup calls (.within stage) now cancelled r) (hhold : stage.hold? = some hold)
    (hreport : r.reportProgress hold.phase now = .ok r') :
    (now < r.runner.nextProgress ∧ r' = r) ∨
      (r.runner.nextProgress ≤ now ∧ ∃ elapsed, ReportsAt setup hold.phase now r r' elapsed) := by
  obtain hearly | ⟨hdue, -⟩ := reportProgress_ok hreport
  · exact .inl hearly
  · exact .inr ⟨hdue,
      (passes_paced h).reportsAt (not_warmup_of_hold hhold) (passes_setup h) hdue hreport⟩

end Passage

/-- A run keeps its reports of progress to the intervals of its measured part, which last as long as
the settings say but a millisecond at least. The search for the next due time ends whatever the clock
reads, and a run can check its progress unless that time is past the limit of the clock. From the
beginning of the measured part on the due time lies a whole number of intervals after that beginning,
and past the time of every report. A run that checks its progress publishes a report exactly if one
is due, and the next one is due when the interval of this report is over. So the intervals of
successive reports ascend, from one phase to the next too, and none is reported on twice, however
late the run is woken and whatever settles. -/
theorem progress_paced (setup : Setup) (calls : ℕ) :
    setup.progressInterval = max setup.settings.progressInterval.nanos 1000000 ∧
    (∀ now next, ∃ rounds, firstPast setup.progressInterval setup.progressInterval_pos now next =
        next + rounds * setup.progressInterval ∧
      now < next + rounds * setup.progressInterval ∧
      ∀ k < rounds, next + k * setup.progressInterval ≤ now) ∧
    (∀ now cancelled r, Reachable setup calls now cancelled r →
      Passes setup calls (.within r.stage) now cancelled r) ∧
    (∀ place now cancelled r, Passes setup calls place now cancelled r →
      Paced setup place.part r ∧
      (∀ k, ((reportTimes r).map (intervalOf setup)).count k ≤ 1) ∧
      ∀ stage hold, place = .within stage → stage.hold? = some hold →
        ((∃ r', r.reportProgress hold.phase now = .ok r') ↔ now < r.runner.nextProgress ∨
          firstPast setup.progressInterval setup.progressInterval_pos now r.runner.nextProgress <
            clockLimit) ∧
        ∀ r', r.reportProgress hold.phase now = .ok r' →
          (now < r.runner.nextProgress ∧ r' = r) ∨
            (r.runner.nextProgress ≤ now ∧
              ∃ elapsed, ReportsAt setup hold.phase now r r' elapsed)) ∧
    ∀ g spec r g', Generator.execute g spec = .ok (.ok r, g') →
      ∃ schedule, spec.validate = .ok schedule ∧ Paced (g.setup spec schedule) .cooldown r := by
  refine ⟨rfl, firstPast_rounds _ _, fun now cancelled r => passes_of_reachable, ?_, ?_⟩
  · intro place now cancelled r hpasses
    have hpaced := passes_paced hpasses
    refine ⟨hpaced, hpaced.count_le_one, ?_⟩
    rintro stage hold rfl hhold
    obtain rfl := passes_setup hpasses
    exact ⟨exists_reportProgress r hold.phase now, fun r' => reportProgress_cases hpasses hhold⟩
  · intro g spec r g' hexecute
    obtain ⟨schedule, hvalid, hreach, hfinished⟩ := reachable_of_execute hexecute
    obtain ⟨report, hreport⟩ := Option.isSome_iff_exists.1 hfinished
    have hpasses := passes_of_reachable hreach
    have hpaced := passes_paced hpasses
    rw [(passes_report hpasses hreport).1] at hpaced
    exact ⟨schedule, hvalid, hpaced⟩

/-- A generator whose runs report progress every seven milliseconds. -/
def chattyGenerator : Generator :=
  { steadyGenerator with settings := { progressInterval := .ofMillis 7 } }

theorem progress_paced_rising :
    ∃ r, (executed? chattyGenerator risingSpec).map Prod.fst = some r ∧
      (reportTimes r).map Duration.millis = [7, 14, 21, 28] ∧
      Paced (chattyGenerator.setup risingSpec (.concurrency 2)) .cooldown r := by
  have htimes : (executed? chattyGenerator risingSpec).map (fun e =>
      (reportTimes e.1).map Duration.millis) = some [7, 14, 21, 28] := by decide +kernel
  obtain ⟨⟨r, g'⟩, hexecuted, htimes⟩ := Option.map_eq_some_iff.1 htimes
  obtain ⟨schedule, hvalid, hpaced⟩ :=
    (progress_paced (chattyGenerator.setup risingSpec (.concurrency 2)) 0).2.2.2.2 _ _ r g'
      (executed?_eq_some.1 hexecuted)
  have hvalid' : risingSpec.validate = .ok (.concurrency 2) := rfl
  obtain rfl : Schedule.concurrency 2 = schedule := Except.ok.inj (hvalid'.symm.trans hvalid)
  exact ⟨r, by rw [hexecuted]; rfl, htimes, hpaced⟩

end LoadTest.Proofs
