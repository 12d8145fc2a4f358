import LoadTest.Proofs.InFlightBounds
import LoadTest.Proofs.RequestConservation

/-!
# Runs that are cancelled

A run is told of its cancellation by the signals that wake it. `NotedAt` says what a run may note
while it answers one signal: a request only if it has not been cancelled, and a hold that ends has
lasted only if it has not been cancelled. `Advances` is that statement for a whole answer, from which
follows that a cancelled run starts nothing, whatever phase it is in. Which runs are cut short is
told by their holds.
-/

namespace LoadTest.Proofs

/-- What a run may note at a moment. -/
def NotedAt (now : Nat) (cancelled : Bool) : Note → Prop
  | .issued _ _ time => time = now ∧ cancelled = false
  | .held _ lasted => lasted = !cancelled
  | .event _ | .line _ => True

/-- The run goes on from `r` to `r'` while the clock stands still. -/
def Advances (now : Nat) (cancelled : Bool) (r r' : Run) : Prop :=
  ∃ notes, r'.trace = r.trace ++ notes ∧ ∀ n ∈ notes, NotedAt now cancelled n

section Advances

variable {setup : Setup} {now : Nat} {cancelled : Bool} {r r₁ r' : Run} {phase : Phase}

lemma Advances.of_eq (h : r'.trace = r.trace) : Advances now cancelled r r' :=
  ⟨[], by rw [h, List.append_nil], nofun⟩

lemma Advances.trans (h : Advances now cancelled r r₁) (h' : Advances now cancelled r₁ r') :
    Advances now cancelled r r' := by
  obtain ⟨notes, htrace, hnotes⟩ := h
  obtain ⟨notes', htrace', hnotes'⟩ := h'
  refine ⟨notes ++ notes', by rw [htrace', htrace, List.append_assoc], ?_⟩
  intro n hn
  obtain hn | hn := List.mem_append.1 hn
  · exact hnotes n hn
  · exact hnotes' n hn

lemma advances_note {notes : List Note}
    (h : ∀ n ∈ notes.filter fun n => !n.isLine, NotedAt now cancelled n) :
    Advances now cancelled r (r.note notes) :=
  ⟨_, note_trace r notes, h⟩

lemma advances_issueDue {hold : Hold} (h : r.issueDue hold now = .ok r') :
    Advances now false r r' := by
  obtain ⟨started, htrace, hstarted⟩ := (starts_issueDue h).trace
  refine ⟨started, htrace, ?_⟩
  intro n hn
  obtain ⟨id, rfl⟩ := hstarted n hn
  exact ⟨rfl, rfl⟩

lemma advances_record {settled : Option Settlement} (h : r.record now settled = .ok r') :
    Advances now cancelled r r' := by
  obtain ⟨runner, notes, hnotes, rfl, -⟩ := record_ok h
  refine .of_eq ?_
  simp [hnotes]

lemma advances_reportProgress (h : r.reportProgress phase now = .ok r') :
    Advances now cancelled r r' := by
  obtain ⟨-, rfl⟩ | ⟨-, elapsed, nextProgress, -, -, rfl⟩ := reportProgress_ok h
  · exact .of_eq rfl
  · have hpaced : Advances now cancelled r { r with runner := { r.runner with nextProgress } } :=
      .of_eq rfl
    exact hpaced.trans (advances_note (by simp [NotedAt]))

lemma advances_burstCompleted : Advances now cancelled r (r.burstCompleted phase) := by
  have hlogged : Advances now cancelled r (r.note [.log .debug "Unmeasured burst finished"]) :=
    advances_note (by simp)
  exact hlogged.trans (advances_note (by simp [NotedAt]))

/-- A hold that ends has lasted unless the run is cancelled. -/
lemma advances_held {lasted : Bool} (h : cancelled = !lasted) :
    Advances now cancelled r (r.held phase lasted) :=
  advances_note (by simp [NotedAt, h])

lemma advances_loadEnded {lasted : Bool} (h : cancelled = !lasted) :
    Advances now cancelled r (r.loadEnded phase lasted) :=
  (advances_held h).trans (advances_note (by simp [NotedAt]))

/-- A run notes what the moment allows until it waits. -/
lemma advances_proceeds {place : Place} (h : Proceeds setup now cancelled place r r') :
    Advances now cancelled r r' := by
  induction h with
  | skipWarmup _ _ ih | skipCooldown _ _ ih | skipRise _ ih => exact ih
  | awaitBurst | awaitRampDown => exact .of_eq rfl
  | beginWarmup _ _ ih | beginCooldown _ _ ih | beginRise _ _ ih | endRise _ ih =>
    exact (advances_note (by simp [NotedAt])).trans ih
  | @issueBurst b r r' hwants _ ih =>
    have hissued : Advances now cancelled r (r.issueBurst b now) := by
      refine ⟨_, issueBurst_trace r now b, ?_⟩
      simp [NotedAt, hwants.2.2]
    exact hissued.trans ih
  | endWarmup _ _ _ _ ih | endCooldown _ _ _ _ ih => exact advances_burstCompleted.trans ih
  | beginMeasured _ _ ih => exact Advances.trans (.of_eq (by simp)) ih
  | beginStep _ _ ih => exact Advances.trans (.of_eq (by simp)) ih
  | @beginSustained deadline r r' _ _ ih =>
    have hbegun : (r.beginFullLoad deadline now).1.trace = (r.phaseStarted .sustained).trace := by
      simp
    exact (advances_note (by simp [NotedAt])).trans (.trans (.of_eq hbegun) ih)
  | @beginRampDown cutShort _ r _ _ _ ih =>
    exact .trans ⟨_, rampingDown_trace r cutShort, by simp [NotedAt]⟩ ih
  | awaitHold hcancelled _ _ hdue =>
    subst hcancelled
    exact (advances_issueDue hdue).trans (.of_eq rfl)
  | endStep hcancelled _ _ ih => exact (advances_held hcancelled).trans ih
  | endSustained hcancelled _ _ ih => exact (advances_loadEnded hcancelled).trans ih
  | cutRise hcancelled _ ih | cutSustained hcancelled _ ih =>
    exact (advances_loadEnded hcancelled).trans ih
  | @endRampDown _ elapsed r _ _ _ _ ih =>
    exact .trans ⟨_, drained_trace r now elapsed, by simp [NotedAt]⟩ ih
  | complete hcomplete =>
    obtain ⟨report, -, rfl⟩ := complete_ok hcomplete
    exact ⟨_, completed_trace _ report, by simp [NotedAt]⟩

lemma advances_start {calls : Nat} (h : Run.start setup calls cancelled now = .ok r) :
    Advances now cancelled (Run.opened setup calls now) r :=
  advances_proceeds (proceeds_start h)

/-- A run notes what the moment of the signal allows that it answers. -/
theorem advances_step {s : Signal} (h : r.step s = .ok r') : Advances s.now s.cancelled r r' := by
  cases answers_step h with
  | idle | finished => exact .of_eq rfl
  | @settle _ settled _ _ _ hproceeds =>
    have hnoted : Advances s.now s.cancelled r (r.note settled.ending.notes) :=
      advances_note (by simp [ending_notes_filter])
    exact hnoted.trans (advances_proceeds hproceeds)
  | cut _ _ hproceeds => exact advances_proceeds hproceeds
  | wake _ _ hrecord hreport hproceeds =>
    have hgoesOn := (advances_reportProgress hreport).trans (advances_proceeds hproceeds)
    exact (advances_record hrecord).trans hgoesOn
  | drain _ hrecord hproceeds => exact (advances_record hrecord).trans (advances_proceeds hproceeds)

end Advances

/-! ### No request after the cancellation -/

/-- A request that was started, as its phase, its number and the reading of the clock. -/
def request? : Note → Option (Phase × Nat × Nat)
  | .issued phase id time => some (phase, id, time)
  | _ => none

/-- The requests that a run has started, those of bursts included. -/
def requestsStarted (r : Run) : List (Phase × Nat × Nat) := r.trace.filterMap request?

/-- Signals that all find the run cancelled take it from `r` to `r'`. -/
inductive WindsUp (now : Nat) (r : Run) : Nat → Run → Prop where
  | refl : WindsUp now r now r
  | step {now' : Nat} {r₁ r₂ : Run} {s : Signal} (h : WindsUp now r now' r₁) (hnow : now' ≤ s.now)
    (hcancelled : s.cancelled = true) (hstep : r₁.step s = .ok r₂) : WindsUp now r s.now r₂

section Started

variable {setup : Setup} {calls now now' : Nat} {cancelled : Bool} {r r' : Run}

lemma requestsStarted_of_advances (h : Advances now true r r') :
    requestsStarted r' = requestsStarted r := by
  obtain ⟨notes, htrace, hnotes⟩ := h
  have hnone : notes.filterMap request? = [] := by
    rw [List.filterMap_eq_nil_iff]
    intro n hn
    cases n with
    | issued => cases (hnotes _ hn).2
    | _ => rfl
  unfold requestsStarted
  rw [htrace, List.filterMap_append, hnone, List.append_nil]

/-- A request that is started in answer to a signal is started at its moment. -/
lemma mem_requestsStarted_of_advances {phase : Phase} {id time : Nat}
    (h : Advances now cancelled r r') (hmem : (phase, id, time) ∈ requestsStarted r') :
    (phase, id, time) ∈ requestsStarted r ∨ time = now ∧ cancelled = false := by
  obtain ⟨notes, htrace, hnotes⟩ := h
  unfold requestsStarted at hmem ⊢
  rw [htrace, List.filterMap_append, List.mem_append] at hmem
  obtain hmem | hmem := hmem
  · exact .inl hmem
  · obtain ⟨n, hn, hrequest⟩ := List.mem_filterMap.1 hmem
    cases n with
    | issued =>
      cases hrequest
      exact .inr (hnotes _ hn)
    | _ => cases hrequest

lemma requestsStarted_of_windsUp (h : WindsUp now r now' r') :
    requestsStarted r' = requestsStarted r := by
  induction h with
  | refl => rfl
  | @step _ r₁ r₂ s _ _ hcancelled hstep ih =>
    have hadvances := advances_step hstep
    rw [hcancelled] at hadvances
    rw [requestsStarted_of_advances hadvances, ih]

lemma passes_of_windsUp (hpasses : Passes setup calls (.within r.stage) now cancelled r)
    (h : WindsUp now r now' r') :
    ∃ cancelled', Passes setup calls (.within r'.stage) now' cancelled' r' := by
  induction h with
  | refl => exact ⟨cancelled, hpasses⟩
  | @step _ _ _ s _ hnow hcancelled hstep ih =>
    obtain ⟨cancelled', hpasses'⟩ := ih
    exact ⟨s.cancelled, passes_step (hpasses'.elapse hnow fun _ => hcancelled) hstep⟩

/-- The calls of the target are the requests that the run has started. -/
lemma calls_eq_of_passes {place : Place} (h : Passes setup calls place now cancelled r) :
    r.calls = calls + (requestsStarted r).length := by
  have hcalled := (passes_conserved h).balanced.called
  have hsplit : ∀ trace : List Note, (trace.filterMap request?).length =
      (measuredIds trace).length + (burstIds trace).length := by
    intro trace
    induction trace with
    | nil => rfl
    | cons n trace ih =>
      unfold measuredIds burstIds at ih ⊢
      cases n with
      | issued phase =>
        cases hphase : phase.isMeasured <;>
          simp [request?, startedId?, hphase, ih] <;> omega
      | _ => simpa [List.filterMap_cons, request?, startedId?] using ih
  unfold requestsStarted
  rw [hsplit]
  omega

/-- What has become of the requests that were in flight in `r`: each is recorded, abandoned or still
in flight, and a report counts those recorded and those abandoned, which are then all. -/
structure NoneLost (r r' : Run) : Prop where
  kept : ∀ p ∈ r.runner.inFlight, p.id ∈ r'.runner.outcomes.map Outcome.id ∨
    p.id ∈ r'.abandoned.map Pending.id ∨ p.id ∈ r'.runner.inFlight.map Pending.id
  counted : ∀ report, r'.report = some report → r'.runner.inFlight = [] ∧
    report.totalRequests = r'.runner.outcomes.length ∧
    report.abandonedRequests = r'.abandoned.length

lemma measuredIds_of_advances (h : Advances now cancelled r r') :
    measuredIds r.trace ⊆ measuredIds r'.trace := by
  obtain ⟨notes, htrace, -⟩ := h
  rw [htrace, measuredIds_append]
  exact List.subset_append_left ..

lemma measuredIds_of_windsUp (h : WindsUp now r now' r') :
    measuredIds r.trace ⊆ measuredIds r'.trace := by
  induction h with
  | refl => exact List.Subset.refl _
  | step _ _ _ hstep ih => exact List.Subset.trans ih (measuredIds_of_advances (advances_step hstep))

lemma noneLost_of_passes {place place' : Place} {cancelled' : Bool}
    (h : Passes setup calls place now cancelled r)
    (h' : Passes setup calls place' now' cancelled' r')
    (hids : measuredIds r.trace ⊆ measuredIds r'.trace) : NoneLost r r' := by
  have hconserved := passes_conserved h
  have hconserved' := passes_conserved h'
  constructor
  · intro p hp
    have haccounted : p.id ∈ accountedIds r := by
      unfold accountedIds
      exact List.mem_append_right _ (List.mem_append_right _ (List.mem_map_of_mem hp))
    have hstarted : p.id ∈ measuredIds r'.trace :=
      hids (hconserved.balanced.accounted.mem_iff.1 haccounted)
    have haccounted' : p.id ∈ accountedIds r' :=
      hconserved'.balanced.accounted.mem_iff.2 hstarted
    unfold accountedIds at haccounted'
    rwa [List.mem_append, List.mem_append] at haccounted'
  · intro report hreport
    obtain ⟨hfinished, htotal, habandoned⟩ := passes_report h' hreport
    refine ⟨hconserved'.cooldown ?_, htotal, habandoned⟩
    rw [hfinished]
    rfl

end Started

/-! ### Which runs are cut short -/

/-- A level was held until the run was cancelled. -/
def WasCut (r : Run) : Prop :=
  Note.held .rampUp false ∈ r.trace ∨ Note.held .sustained false ∈ r.trace

/-- The notes that a run leaves in its cooldown. -/
def ofCooldown : Note → Bool
  | .issued phase _ _ | .event (.phaseStarted _ phase) | .event (.phaseCompleted _ phase _) =>
    phase = .cooldown
  | _ => false

/-- Whether the load was cut short, as far as the run has come. -/
def cutBy (place : Place) (r : Run) : Bool :=
  match place with
  | .unloaded cutShort => cutShort
  | _ => r.cutShort

/-- The places at which no run counts as cut short. -/
def Place.isUncut : Place → Bool
  | .within (.rampDown _) | .within .finished | .drained | .closing => false
  | _ => true

/-- A run counts as cut short if one of its holds was, and then it has no cooldown. -/
structure CutTold (place : Place) (r : Run) : Prop where
  cut : cutBy place r = true ↔ WasCut r
  uncut : place.isUncut = true → r.cutShort = false
  cooldown : ∀ n ∈ r.trace, ofCooldown n = true → place.part = .cooldown ∧ r.cutShort = false

section Cut

variable {setup : Setup} {calls now : Nat} {cancelled : Bool} {place place' : Place} {r r' : Run}
  {notes : List Note}

lemma wasCut_append (htrace : r'.trace = r.trace ++ notes)
    (hnotes : ∀ phase, Note.held phase false ∉ notes) : WasCut r' ↔ WasCut r := by
  unfold WasCut
  rw [htrace, List.mem_append, List.mem_append]
  have hrise := hnotes .rampUp
  have hsustained := hnotes .sustained
  tauto

lemma CutTold.of_append (h : CutTold place r) (htrace : r'.trace = r.trace ++ notes)
    (hnotes : ∀ phase, Note.held phase false ∉ notes) (hcut : cutBy place' r' = cutBy place r)
    (huncut : place'.isUncut = true → r'.cutShort = false)
    (hcooldown : (∃ n ∈ notes, ofCooldown n = true) ∨ place.part = .cooldown ∧ r.cutShort = false →
      place'.part = .cooldown ∧ r'.cutShort = false) : CutTold place' r' := by
  refine ⟨?_, huncut, ?_⟩
  · rw [hcut, wasCut_append htrace hnotes]
    exact h.cut
  · intro n hn hof
    rw [htrace] at hn
    obtain hn | hn := List.mem_append.1 hn
    · exact hcooldown (.inr (h.cooldown n hn hof))
    · exact hcooldown (.inl ⟨n, hn, hof⟩)

/-- Outside the cooldown a run goes on without a hold that is cut. -/
lemma CutTold.of_ordinary (h : CutTold place r) (htrace : r'.trace = r.trace ++ notes)
    (hnotes : ∀ n ∈ notes, ofCooldown n = false ∧ ∀ phase, n ≠ .held phase false)
    (hshort : r'.cutShort = r.cutShort) (hcut : cutBy place' r' = cutBy place r)
    (huncut : place'.isUncut = true → place.isUncut = true)
    (hpart : place.part = .cooldown → place'.part = .cooldown) : CutTold place' r' := by
  refine h.of_append htrace ?_ hcut ?_ ?_
  · intro phase hmem
    exact (hnotes _ hmem).2 phase rfl
  · intro hplace
    rw [hshort]
    exact h.uncut (huncut hplace)
  · rintro (⟨n, hn, hof⟩ | ⟨hcooldown, hlasted⟩)
    · rw [(hnotes n hn).1] at hof
      cases hof
    · exact ⟨hpart hcooldown, hshort.trans hlasted⟩

lemma CutTold.of_silent (h : CutTold place r) (htrace : r'.trace = r.trace)
    (hshort : r'.cutShort = r.cutShort) (hcut : cutBy place' r' = cutBy place r)
    (huncut : place'.isUncut = true → place.isUncut = true)
    (hpart : place.part = .cooldown → place'.part = .cooldown) : CutTold place' r' :=
  h.of_ordinary (htrace.trans (List.append_nil _).symm) nofun hshort hcut huncut hpart

/-- The cooldown of a run that was not cut short. -/
lemma CutTold.of_cooldown (h : CutTold place r) (htrace : r'.trace = r.trace ++ notes)
    (hnotes : ∀ phase, Note.held phase false ∉ notes) (hcut : cutBy place' r' = cutBy place r)
    (hlasted : r'.cutShort = false) (hpart : place'.part = .cooldown) : CutTold place' r' :=
  h.of_append htrace hnotes hcut (fun _ => hlasted) (fun _ => ⟨hpart, hlasted⟩)

/-- A hold that ends because of a cancellation cuts the run short. -/
lemma CutTold.of_cut {phase : Phase} (h : CutTold place r)
    (hphase : phase = .rampUp ∨ phase = .sustained) (huncut : place.isUncut = true)
    (hpart : place.part = .measured) : CutTold (.unloaded true) (r.loadEnded phase false) := by
  have htrace : (r.loadEnded phase false).trace = r.trace ++
      [.held phase false, .event (.phaseCompleted r.setup.runId phase r.runner.outcomes.length)] := by
    simp
  refine ⟨⟨fun _ => ?_, fun _ => rfl⟩, fun _ => h.uncut huncut, ?_⟩
  · unfold WasCut
    rw [htrace]
    obtain rfl | rfl := hphase
    · simp
    · simp
  · intro n hn hof
    rw [htrace] at hn
    obtain hn | hn := List.mem_append.1 hn
    · cases hpart.symm.trans (h.cooldown n hn hof).1
    · obtain rfl | rfl := List.mem_pair.1 hn
      · cases hof
      · obtain rfl | rfl := hphase <;> cases hof

lemma CutTold.of_issuedRun {phase : Phase} (h : CutTold place r)
    (hphase : phase.isMeasured = true) (hcut : cutBy place r = r.cutShort)
    (hcut' : cutBy place (issuedRun r phase now) = r.cutShort) :
    CutTold place (issuedRun r phase now) := by
  have hnot : phase ≠ .cooldown := by
    rintro rfl
    cases hphase
  exact h.of_ordinary (issuedRun_trace ..) (by simp [ofCooldown, hnot]) rfl (hcut'.trans hcut.symm)
    id id

lemma passes_cutTold (h : Passes setup calls place now cancelled r) : CutTold place r := by
  induction h with
  | @opened now cancelled =>
    have hcut : ¬WasCut (Run.opened setup calls now) := by simp [WasCut]
    exact ⟨iff_of_false Bool.false_ne_true hcut, fun _ => rfl, by simp [ofCooldown]⟩
  | elapse _ _ _ ih => exact ih
  | wait _ ih | schedule _ _ _ _ ih => exact ih.of_silent rfl rfl rfl id id
  | skipWarmup _ _ ih | skipRise _ ih => exact ih.of_silent rfl rfl rfl id (by rintro ⟨⟩)
  | skipCooldown _ _ ih => exact ih.of_silent rfl rfl rfl (by rintro ⟨⟩) id
  | settleBurst s _ ih => exact ih.of_silent (by simp [ending_notes_filter]) rfl rfl id id
  | issueBurst hpasses _ ih =>
    obtain hphase | hphase := passes_wellFormed hpasses
    · exact ih.of_ordinary (issueBurst_trace ..) (by simp [ofCooldown, hphase]) rfl rfl id id
    · refine ih.of_cooldown (issueBurst_trace ..) (by simp) rfl (ih.uncut rfl) ?_
      simp [Place.part, Burst.issue, hphase]
  | endWarmup _ hphase _ _ ih =>
    refine ih.of_ordinary (by simp; rfl) (by simp [ofCooldown]) rfl rfl (fun _ => rfl) ?_
    simp [Place.part, hphase]
  | @beginCooldown now cancelled r _ hcount ih =>
    have hlasted : r.cutShort = false := by
      unfold Run.cooldownCount at hcount
      cases hshort : r.cutShort with
      | true => exact absurd (if_pos hshort) hcount
      | false => rfl
    exact ih.of_cooldown (by simp; rfl) (by simp) rfl hlasted rfl
  | endCooldown _ _ _ _ ih => exact ih.of_cooldown (by simp; rfl) (by simp) rfl (ih.uncut rfl) rfl
  | refill h hhold _ _ _ hissue ih =>
    obtain ⟨-, rfl⟩ := issue_ok hissue
    exact ih.of_issuedRun (isMeasured_of_hold (passes_wellFormed h) hhold) rfl rfl
  | arrive h hhold _ _ harrive ih =>
    obtain ⟨-, rfl⟩ | ⟨-, -, rfl⟩ := arrive_ok harrive
    · exact ih.of_silent (by simp) rfl rfl id id
    · exact ih.of_issuedRun (isMeasured_of_hold (passes_wellFormed h) hhold) rfl rfl
  | reportProgress _ _ hreport ih =>
    obtain ⟨-, rfl⟩ | ⟨-, elapsed, nextProgress, -, -, rfl⟩ := reportProgress_ok hreport
    · exact ih
    · exact ih.of_ordinary (note_trace ..) (by simp [ofCooldown]) rfl rfl id id
  | record _ _ hrecord ih =>
    obtain ⟨runner, notes, hnotes, rfl, -⟩ := record_ok hrecord
    exact ih.of_silent (by simp [hnotes]) rfl rfl id id
  | beginMeasured _ _ ih => exact ih.of_silent (by simp) (by simp) (by simp [cutBy]) id (by rintro ⟨⟩)
  | beginStep _ _ ih =>
    exact ih.of_silent (by simp) (by simp) (by simp [cutBy]) (fun _ => rfl) (by rintro ⟨⟩)
  | beginSustained _ _ ih =>
    exact ih.of_ordinary (by simp; rfl) (by simp [ofCooldown]) (by simp) (by simp [cutBy])
      (fun _ => rfl) (by rintro ⟨⟩)
  | beginWarmup _ _ ih | beginRise _ _ ih | endStep _ _ ih | endRise _ ih =>
    exact ih.of_ordinary (by simp; rfl) (by simp [ofCooldown]) rfl rfl (fun _ => rfl) (by rintro ⟨⟩)
  | cutRise _ ih => exact ih.of_cut (.inl rfl) rfl rfl
  | cutSustained _ ih => exact ih.of_cut (.inr rfl) rfl rfl
  | endSustained _ _ ih =>
    exact ih.of_ordinary (by simp; rfl) (by simp [ofCooldown]) rfl (ih.uncut rfl).symm (fun _ => rfl)
      (by rintro ⟨⟩)
  | beginRampDown _ _ ih =>
    refine ih.of_append (rampingDown_trace ..) (by simp) (by simp [cutBy]) (by rintro ⟨⟩) ?_
    simp [ofCooldown, Place.part]
  | endRampDown _ _ _ ih =>
    exact ih.of_ordinary (drained_trace ..) (by simp [ofCooldown]) (by simp) (by simp [cutBy])
      (by rintro ⟨⟩) (by rintro ⟨⟩)
  | complete _ hcomplete ih =>
    obtain ⟨report, -, rfl⟩ := complete_ok hcomplete
    exact ih.of_ordinary (completed_trace ..) (by simp [ofCooldown]) (by simp) (by simp [cutBy])
      (by rintro ⟨⟩) id

/-- A run that waits counts as cut short exactly if a hold was, and then it has no cooldown. -/
structure CutShortTold (r : Run) : Prop where
  cut : r.cutShort = true ↔ WasCut r
  noCooldown : r.cutShort = true → ∀ n ∈ r.trace, ofCooldown n = false

lemma cutShortTold_of_passes {stage : Stage}
    (h : Passes setup calls (.within stage) now cancelled r) : CutShortTold r := by
  have htold := passes_cutTold h
  refine ⟨htold.cut, ?_⟩
  intro hshort n hn
  cases hof : ofCooldown n with
  | false => rfl
  | true =>
    rw [(htold.cooldown n hn hof).2] at hshort
    cases hshort

lemma Advances.wasCut (h : Advances now cancelled r r') (hcut : WasCut r) : WasCut r' := by
  obtain ⟨notes, htrace, -⟩ := h
  unfold WasCut at *
  rw [htrace]
  exact hcut.imp (List.mem_append_left _) (List.mem_append_left _)

/-- A hold that a cancellation finds is cut. -/
lemma wasCut_of_step {s : Signal} (hheeds : r.heedsCancellation = true)
    (hcancelled : s.cancelled = true) (h : r.step s = .ok r') : WasCut r' := by
  unfold Run.heedsCancellation at hheeds
  cases answers_step h with
  | cut _ _ hproceeds =>
    cases hstage : r.stage with
    | rampUp =>
      rw [hstage] at hproceeds
      cases hproceeds with
      | cutRise _ hproceeds => exact (advances_proceeds hproceeds).wasCut (by simp [WasCut])
      | endStep huncancelled | awaitHold huncancelled => cases hcancelled.symm.trans huncancelled
    | sustained =>
      rw [hstage] at hproceeds
      cases hproceeds with
      | cutSustained _ hproceeds => exact (advances_proceeds hproceeds).wasCut (by simp [WasCut])
      | endSustained huncancelled | awaitHold huncancelled =>
        cases hcancelled.symm.trans huncancelled
    | _ =>
      rw [hstage] at hheeds
      cases hheeds
  | wake _ huncancelled => cases hcancelled.symm.trans huncancelled
  | idle hstage | settle hstage | drain hstage | finished hstage =>
    rw [hstage] at hheeds
    cases hheeds

/-- A run that the cancellation has found at any place winds up without another request. -/
lemma started_of_windsUp {place : Place} {now₀ : Nat} {cancelled₀ : Bool} {r₀ : Run}
    (h₀ : Passes setup calls place now₀ cancelled₀ r₀)
    (h : Passes setup calls (.within r.stage) now cancelled r) (hadvances : Advances now true r₀ r)
    (hwinds : WindsUp now r now' r') :
    requestsStarted r' = requestsStarted r₀ ∧ r'.calls = r₀.calls ∧ CutShortTold r' ∧
      NoneLost r₀ r' := by
  obtain ⟨cancelled', h'⟩ := passes_of_windsUp h hwinds
  have hstarted : requestsStarted r' = requestsStarted r₀ :=
    (requestsStarted_of_windsUp hwinds).trans (requestsStarted_of_advances hadvances)
  refine ⟨hstarted, ?_, cutShortTold_of_passes h', noneLost_of_passes h₀ h' ?_⟩
  · rw [calls_eq_of_passes h', calls_eq_of_passes h₀, hstarted]
  · exact List.Subset.trans (measuredIds_of_advances hadvances) (measuredIds_of_windsUp hwinds)

end Cut

/-! ### Simulated runs -/

/-- Every request was started before the world cancelled the run. -/
def StartedInTime (w : World) (r : Run) : Prop :=
  ∀ p ∈ requestsStarted r, w.isCancelled p.2.2 = false

lemma StartedInTime.of_advances {w : World} {now : Nat} {r r' : Run} (h : StartedInTime w r)
    (hadvances : Advances now (w.isCancelled now) r r') : StartedInTime w r' := by
  rintro ⟨phase, id, time⟩ hmem
  obtain hmem | ⟨rfl, hcancelled⟩ := mem_requestsStarted_of_advances hadvances hmem
  · exact h _ hmem
  · exact hcancelled

lemma startedInTime_of_execute {g g' : Generator} {spec : Spec} {r : Run}
    (h : g.execute spec = .ok (.ok r, g')) : StartedInTime g.world r := by
  obtain ⟨schedule, first, -, hstart, hplay, -⟩ := execute_ok h
  have hopened : StartedInTime g.world (Run.opened (g.setup spec schedule) g.calls g.now) := nofun
  have hfirst : StartedInTime g.world first := hopened.of_advances (advances_start hstart)
  refine (play_invariant (P := fun _ r => StartedInTime g.world r) hfirst ?_ hplay).1
  intro now r s r' hr _ hcancelled hstep
  have hadvances := advances_step hstep
  rw [hcancelled] at hadvances
  exact hr.of_advances hadvances

/-- Nothing is started once a run is cancelled, whatever phase it is in. What a run notes in answer to
a signal is what its moment allows; signals that find it cancelled start no request and call the
target no more, and the requests that were in flight are recorded or abandoned. So it is too if the
cancellation finds the run between two phases, as when the load has drained and the cooldown is next.
The run counts as cut short exactly if a hold of its load met the cancellation, and then it has no
cooldown. -/
theorem nothing_started_after_cancellation (g : Generator) (spec : Spec) (schedule : Schedule)
    (hvalid : spec.validate = .ok schedule) :
    (∀ now cancelled r, Run.start (g.setup spec schedule) g.calls cancelled now = .ok r →
      Advances now cancelled (Run.opened (g.setup spec schedule) g.calls now) r ∧
      (cancelled = true → requestsStarted r = [] ∧ r.calls = g.calls)) ∧
    (∀ now cancelled r, Reachable (g.setup spec schedule) g.calls now cancelled r →
      CutShortTold r ∧
      (∀ s r', r.step s = .ok r' → Advances s.now s.cancelled r r' ∧
        (s.cancelled = true → r.heedsCancellation = true → WasCut r')) ∧
      ∀ now' r', WindsUp now r now' r' →
        requestsStarted r' = requestsStarted r ∧ r'.calls = r.calls ∧ CutShortTold r' ∧
          NoneLost r r') ∧
    (∀ place now cancelled r, Passes (g.setup spec schedule) g.calls place now cancelled r →
      ∀ now' r', now ≤ now' → Proceeds (g.setup spec schedule) now' true place r r' →
        ∀ later last, WindsUp now' r' later last →
          requestsStarted last = requestsStarted r ∧ last.calls = r.calls ∧ CutShortTold last ∧
            NoneLost r last) ∧
    ∀ r g', g.execute spec = .ok (.ok r, g') →
      Reachable (g.setup spec schedule) g.calls g'.now (g.world.isCancelled g'.now) r ∧
      StartedInTime g.world r ∧ CutShortTold r := by
  refine ⟨fun now cancelled r hstart => ⟨advances_start hstart, ?_⟩, ?_, ?_, ?_⟩
  · rintro rfl
    have hnone : requestsStarted r = [] := requestsStarted_of_advances (advances_start hstart)
    have hcalls := calls_eq_of_passes (passes_start hstart)
    rw [hnone] at hcalls
    exact ⟨hnone, hcalls⟩
  · intro now cancelled r hreach
    have hpasses := passes_of_reachable hreach
    refine ⟨cutShortTold_of_passes hpasses, fun s r' hstep => ?_, fun now' r' hwinds => ?_⟩
    · exact ⟨advances_step hstep, fun hcancelled hheeds => wasCut_of_step hheeds hcancelled hstep⟩
    · exact started_of_windsUp hpasses hpasses (.of_eq rfl) hwinds
  · intro place now cancelled r hpasses now' r' hnow hproceeds later last hwinds
    have hcancelled := passes_proceeds hproceeds (hpasses.elapse hnow fun _ => rfl)
    exact started_of_windsUp hpasses hcancelled (advances_proceeds hproceeds) hwinds
  · intro r g' hexecute
    obtain ⟨schedule', hvalid', hreach, -⟩ := reachable_of_execute hexecute
    obtain rfl : schedule = schedule' := Except.ok.inj (hvalid.symm.trans hvalid')
    exact ⟨hreach, startedInTime_of_execute hexecute,
      cutShortTold_of_passes (passes_of_reachable hreach)⟩

/-- A run whose cancellation comes at fifteen milliseconds, while the full load is held. -/
def interruptedSpec : Spec :=
  { concurrency := some 2, duration := .ofMillis 100, warmupRequests := some 3,
    cooldownRequests := some 5 }

/-- A load of eight milliseconds, after which five more requests are to come. -/
def briefSpec : Spec :=
  { concurrency := some 2, duration := .ofMillis 8, cooldownRequests := some 5 }

theorem nothing_started_after_cancellation_interrupted :
    interruptedSpec.validate = .ok (.concurrency 2) ∧
    (∃ r, (executed? hurriedGenerator interruptedSpec).map Prod.fst = some r ∧
      (requestsStarted r).length = 9 ∧ WasCut r ∧
      (∀ p ∈ requestsStarted r, hurriedGenerator.world.isCancelled p.2.2 = false) ∧
      ∀ n ∈ r.trace, ofCooldown n = false) ∧
    ∃ r r', Passes (hurriedGenerator.setup briefSpec (.concurrency 2)) 0 .drained 8000000 false r ∧
      r.cooldownCount = 5 ∧ r.cooldown true 9000000 = .ok r' ∧
      requestsStarted r' = requestsStarted r := by
  have hvalid : interruptedSpec.validate = .ok (.concurrency 2) := rfl
  refine ⟨hvalid, ?_, ?_⟩
  · have hfigures : (executed? hurriedGenerator interruptedSpec).map (fun e =>
        ((requestsStarted e.1).length, e.1.cutShort)) = some (9, true) := by decide +kernel
    obtain ⟨⟨r, g'⟩, hexecuted, hfigures⟩ := Option.map_eq_some_iff.1 hfigures
    obtain ⟨hcount, hshort⟩ := Prod.mk.inj hfigures
    obtain ⟨-, hstarted, htold⟩ :=
      (nothing_started_after_cancellation hurriedGenerator interruptedSpec _ hvalid).2.2.2 r g'
        (executed?_eq_some.1 hexecuted)
    exact ⟨r, by rw [hexecuted]; rfl, hcount, htold.cut.1 hshort, hstarted, htold.noCooldown hshort⟩
  · obtain ⟨first, down, elapsed, hstart, hstep, hstage, helapsed, hcount, hcooldown⟩ :
        ∃ first down elapsed,
          Run.start (hurriedGenerator.setup briefSpec (.concurrency 2)) 0 false 0 = .ok first ∧
          first.step { now := 8000000, cancelled := false, settled := none } = .ok down ∧
          down.stage = .rampDown 8000000 ∧
          Duration.between down.runner.clock 8000000 = .ok elapsed ∧
          (down.drained elapsed 8000000).cooldownCount = 5 ∧
          ((down.drained elapsed 8000000).cooldown true 9000000).toOption.isSome = true :=
      ⟨_, _, _, rfl, rfl, rfl, rfl, rfl, by decide +kernel⟩
    obtain ⟨last, hlast⟩ := Option.isSome_iff_exists.1 hcooldown
    have hlast := ok_of_toOption hlast
    have hreach := Reachable.step (.start hstart) (Nat.zero_le _) nofun hstep
    have hpasses := passes_of_reachable hreach
    rw [hstage] at hpasses
    have hdrained := hpasses.endRampDown (.inr le_rfl) helapsed
    refine ⟨_, last, hdrained, hcount, hlast, ?_⟩
    have hsetup := passes_setup hdrained
    exact ((nothing_started_after_cancellation hurriedGenerator briefSpec (.concurrency 2) rfl).2.2.1
      _ _ _ _ hdrained _ last (by decide) (proceeds_cooldown hsetup hlast) _ _ .refl).1

end LoadTest.Proofs
