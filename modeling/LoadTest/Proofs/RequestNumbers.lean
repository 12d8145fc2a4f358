import LoadTest.Proofs.MergeAdditivity
import LoadTest.Proofs.PartitionPlan
import LoadTest.Proofs.RequestConservation

/-!
# The numbers of requests in a distributed run

Each worker numbers its requests from a base of its own, `2 ^ 40` apart, and a worker that was lost
is charged with requests that are numbered from the same base. As long as no worker uses up its
block, no number occurs twice in the merged outcomes, and a number tells the worker that it belongs
to.
-/

namespace LoadTest.Proofs

/-! ### Blocks of numbers -/

section Blocks

variable {worker count id : ℕ}

/-- The base of a worker is not cut off to 64 bits as long as there are fewer than `2 ^ 24`. -/
lemma requestIdBase_eq (h : worker < 2 ^ 24) : requestIdBase worker = worker * 2 ^ 40 := by
  unfold requestIdBase wordLimit
  omega

lemma worker_of_number (h : worker < 2 ^ 24) (hcount : count < 2 ^ 40)
    (hfrom : requestIdBase worker ≤ id) (hto : id < requestIdBase worker + count) :
    id / 2 ^ 40 = worker := by
  rw [requestIdBase_eq h] at hfrom hto
  omega

end Blocks

/-! ### What a worker contributes -/

/-- How many requests a worker started, or is charged with because it was lost. A worker that replies
hands over what it recorded in a run that numbers its requests from the base of the worker. -/
inductive Accounts (duration : Duration) : WorkerReply → ℕ → Prop where
  | started {partition : WorkerPartition} {result : WorkerResult} {setup : Setup} {calls now : ℕ}
      {cancelled : Bool} {r : Run} (hfirst : setup.firstId = requestIdBase partition.workerIndex)
      (hreach : Reachable setup calls now cancelled r)
      (hresult : result.outcomes = r.runner.outcomes) :
      Accounts duration ⟨partition, .ok result⟩ (measuredIds r.trace).length
  | charged (partition : WorkerPartition) (failure : Failure) :
      Accounts duration ⟨partition, .error failure⟩ (partition.expectedRequests duration)

section Contributions

variable {duration : Duration} {startedAt : Timestamp} {reply : WorkerReply} {count : ℕ}
  {os : List Outcome}

/-- The recorded requests of a run have different numbers among those that it has given out. -/
lemma recorded_numbers {setup : Setup} {calls now : ℕ} {cancelled : Bool} {r : Run}
    (h : Reachable setup calls now cancelled r) :
    (r.runner.outcomes.map Outcome.id).Nodup ∧ ∀ o ∈ r.runner.outcomes,
      setup.firstId ≤ o.id ∧ o.id < setup.firstId + (measuredIds r.trace).length := by
  have hbalanced := (passes_conserved (passes_of_reachable h)).balanced
  refine ⟨hbalanced.nodup.of_append_left, fun o ho => ?_⟩
  have hmem : o.id ∈ accountedIds r := List.mem_append_left _ (List.mem_map_of_mem ho)
  rw [hbalanced.accounted.mem_iff, hbalanced.numbered] at hmem
  exact List.mem_range'_1.1 hmem

/-- The requests that a lost worker is charged with are numbered from its base. -/
lemma chargedOutcomes_numbers {partition : WorkerPartition} {failure : Failure}
    (h : WorkerReply.chargedOutcomes partition failure duration startedAt = .ok os) :
    os.map Outcome.id = List.range' (requestIdBase partition.workerIndex)
      (partition.expectedRequests duration) := by
  unfold WorkerReply.chargedOutcomes at h
  dsimp only at h
  split at h
  · cases h
  · rw [List.range'_eq_map_range, ← List.forall₂_eq_eq_eq, List.forall₂_map_left_iff,
      List.forall₂_map_right_iff]
    refine (mapM_eq_ok.1 h).flip.imp fun o i hi => ?_
    obtain ⟨id, hid, hsettled⟩ := bind_eq_ok.1 hi
    obtain ⟨endedAt, -, ho⟩ := bind_eq_ok.1 hsettled
    cases ho
    exact (checkedWord_eq_ok.1 hid).2.symm

/-- A worker contributes requests of different numbers, out of as many as it accounts for. -/
lemma Accounts.numbers (h : Accounts duration reply count)
    (hos : reply.outcomes duration startedAt = .ok os) :
    (os.map Outcome.id).Nodup ∧ ∀ o ∈ os,
      requestIdBase reply.partition.workerIndex ≤ o.id ∧
        o.id < requestIdBase reply.partition.workerIndex + count := by
  cases h with
  | started hfirst hreach hresult =>
    cases hos
    rw [hresult, ← hfirst]
    exact recorded_numbers hreach
  | charged partition failure =>
    have hids := chargedOutcomes_numbers hos
    rw [hids]
    refine ⟨List.nodup_range', fun o ho => ?_⟩
    have hmem : o.id ∈ os.map Outcome.id := List.mem_map_of_mem ho
    rw [hids] at hmem
    exact List.mem_range'_1.1 hmem

lemma Accounts.exists_outcomes (h : Accounts duration reply count)
    (hworker : reply.partition.workerIndex < 2 ^ 24) (hcount : count < 2 ^ 40) :
    ∃ os, reply.outcomes duration startedAt = .ok os := by
  cases h with
  | started hfirst hreach hresult => exact ⟨_, rfl⟩
  | charged partition failure =>
    have hworker : partition.workerIndex < 2 ^ 24 := hworker
    have hlist : partition.expectedRequests duration ≤ longestList := by
      unfold longestList
      omega
    have hword : requestIdBase partition.workerIndex + partition.expectedRequests duration ≤
        wordLimit := by
      rw [requestIdBase_eq hworker]
      unfold wordLimit
      omega
    exact exists_chargedOutcomes hlist hword

end Contributions

/-! ### The merged outcomes -/

section Merged

variable {replies : List WorkerReply} {outcomes : List (List Outcome)}

/-- The outcomes that a reply contributes have different numbers, which tell its worker. -/
structure Numbered (reply : WorkerReply) (os : List Outcome) : Prop where
  distinct : (os.map Outcome.id).Nodup
  worker : ∀ o ∈ os, o.id / 2 ^ 40 = reply.partition.workerIndex

lemma worker_of_mem_flatten (h : List.Forall₂ Numbered replies outcomes) :
    ∀ o ∈ outcomes.flatten, ∃ r ∈ replies, o.id / 2 ^ 40 = r.partition.workerIndex := by
  induction h with
  | nil => simp
  | @cons r os replies outcomes hhead _ ih =>
    intro o ho
    rw [List.flatten_cons, List.mem_append] at ho
    obtain ho | ho := ho
    · exact ⟨r, List.mem_cons_self, hhead.worker o ho⟩
    · obtain ⟨r', hr', hworker⟩ := ih o ho
      exact ⟨r', List.mem_cons_of_mem _ hr', hworker⟩

/-- Numbers of different workers differ. -/
lemma nodup_flatten_of_numbered (h : List.Forall₂ Numbered replies outcomes)
    (hapart : (replies.map fun r => r.partition.workerIndex).Nodup) :
    (outcomes.flatten.map Outcome.id).Nodup := by
  induction h with
  | nil => exact List.nodup_nil
  | @cons r os replies outcomes hhead htail ih =>
    obtain ⟨hfresh, hapart⟩ := List.nodup_cons.1 hapart
    rw [List.flatten_cons, List.map_append, List.nodup_append']
    refine ⟨hhead.distinct, ih hapart, ?_⟩
    intro id hid hid'
    obtain ⟨o, ho, rfl⟩ := List.mem_map.1 hid
    obtain ⟨o', ho', hsame⟩ := List.mem_map.1 hid'
    obtain ⟨r', hr', hworker⟩ := worker_of_mem_flatten htail o' ho'
    rw [hsame, hhead.worker o ho] at hworker
    exact hfresh (List.mem_map.2 ⟨r', hr', hworker.symm⟩)

/-- A merged report is made of the outcomes that the replies contribute, in order. -/
lemma merge_outcomes {run : DistributedRun} {d : DistributedReport}
    (h : run.merge replies = .ok d) :
    ∃ outcomes, ∃ record : RunRecord,
      replies.mapM (fun r => r.outcomes run.spec.duration run.startedAt) = .ok outcomes ∧
      record.outcomes = outcomes.flatten ∧ record.report = .ok d.report := by
  obtain ⟨outcomes, throughput, houtcomes, -, -, hthroughput, rfl⟩ := merge_eq_ok.1 h
  have hreport : (mergedRecord run replies outcomes).report = .ok _ :=
    RunRecord.report_eq_ok.2 ⟨throughput, hthroughput, rfl⟩
  exact ⟨outcomes, mergedRecord run replies outcomes, houtcomes, rfl, hreport⟩

end Merged

/-! ### The replies of a distributed run -/

section Replies

lemma accounts_workerReply (c : Coordinator) (script : Script) (spec : Spec) (workers calls : ℕ)
    (p : WorkerPartition) :
    ∃ count, Accounts spec.duration
      ⟨p, (c.workerReply script workers calls (WorkerTask.ofPartition p spec)).1⟩ count := by
  unfold Coordinator.workerReply
  dsimp only
  split
  · exact ⟨_, .charged p _⟩
  · split
    · next run g hexecute =>
      obtain ⟨schedule, -, hreach, -⟩ := reachable_of_execute hexecute
      exact ⟨_, .started rfl hreach rfl⟩
    · exact ⟨_, .charged p _⟩
    · exact ⟨_, .charged p _⟩

/-- Every worker of a distributed run accounts for its requests. -/
lemma accounts_replies (c : Coordinator) (script : Script) (spec : Spec) (workers calls : ℕ)
    (ps : List WorkerPartition) :
    (c.replies script spec workers ps calls).1.map WorkerReply.partition = ps ∧
      ∀ r ∈ (c.replies script spec workers ps calls).1, ∃ count, Accounts spec.duration r count := by
  induction ps generalizing calls with
  | nil => exact ⟨rfl, nofun⟩
  | cons p ps ih =>
    obtain ⟨hps, hrest⟩ :=
      ih (c.workerReply script workers calls (WorkerTask.ofPartition p spec)).2.1
    refine ⟨congrArg (p :: ·) hps, ?_⟩
    intro r hr
    obtain rfl | hr := List.mem_cons.1 hr
    · exact accounts_workerReply c script spec workers calls p
    · exact hrest r hr

end Replies

/-- The numbers of requests are unique across workers. For every plan of fewer than `2 ^ 24` workers
of which some replied with what a run from their base recorded and the others were lost, each
accounting for fewer than `2 ^ 40` requests, the merged outcomes exist and have pairwise different
numbers, each of which tells its worker. No base is cut off and no number of a block exceeds 64 bits.
These are the outcomes that a merged report is made of, and the replies of every distributed run are
of that kind. -/
theorem request_numbers_unique (schedule : Schedule) (rampUp : Duration) (parallelism : ℕ)
    (ps : List WorkerPartition) (hplan : schedule.partition rampUp parallelism = .ok ps)
    (hfew : ps.length < 2 ^ 24) (run : DistributedRun) :
    (∀ p ∈ ps, ∀ i < 2 ^ 40,
      requestIdBase p.workerIndex + i = p.workerIndex * 2 ^ 40 + i ∧
        requestIdBase p.workerIndex + i < wordLimit) ∧
    (∀ replies : List WorkerReply, replies.map WorkerReply.partition = ps →
      (∀ r ∈ replies, ∃ count < 2 ^ 40, Accounts run.spec.duration r count) →
      ∃ outcomes, replies.mapM (fun r => r.outcomes run.spec.duration run.startedAt) =
          .ok outcomes ∧
        (outcomes.flatten.map Outcome.id).Nodup ∧
        List.Forall₂ (fun r os => ∀ o ∈ os, o.id / 2 ^ 40 = r.partition.workerIndex)
          replies outcomes ∧
        ∀ d, run.merge replies = .ok d →
          ∃ record : RunRecord, record.outcomes = outcomes.flatten ∧
            record.report = .ok d.report) ∧
    ∀ c script calls,
      (Coordinator.replies c script run.spec ps.length ps calls).1.map WorkerReply.partition = ps ∧
      ∀ r ∈ (Coordinator.replies c script run.spec ps.length ps calls).1,
        ∃ count, Accounts run.spec.duration r count := by
  obtain ⟨-, hnumbered⟩ := isPlan_of_partition hplan
  have hindex : ∀ p ∈ ps, p.workerIndex < 2 ^ 24 := by
    intro p hp
    have hlt := (hnumbered.planned p hp).index
    rw [← hnumbered.length] at hlt
    exact hlt.trans hfew
  refine ⟨?_, ?_, fun c script calls => accounts_replies c script run.spec ps.length calls ps⟩
  · intro p hp i hi
    have hworker := hindex p hp
    rw [requestIdBase_eq hworker]
    unfold wordLimit
    omega
  · rintro replies rfl haccounts
    have hworker : ∀ r ∈ replies, r.partition.workerIndex < 2 ^ 24 := fun r hr =>
      hindex r.partition (List.mem_map_of_mem hr)
    have hcontributed : ∀ r ∈ replies, ∃ os,
        r.outcomes run.spec.duration run.startedAt = .ok os ∧ Numbered r os := by
      intro r hr
      obtain ⟨count, hcount, hr'⟩ := haccounts r hr
      obtain ⟨os, hos⟩ := hr'.exists_outcomes (hworker r hr) hcount
      obtain ⟨hdistinct, hblock⟩ := hr'.numbers hos
      refine ⟨os, hos, hdistinct, fun o ho => ?_⟩
      exact worker_of_number (hworker r hr) hcount (hblock o ho).1 (hblock o ho).2
    obtain ⟨outcomes, houtcomes⟩ := exists_forall₂ hcontributed
    have hall : List.Forall₂ Numbered replies outcomes := houtcomes.imp fun _ _ h => h.2
    have hmerged : replies.mapM (fun r => r.outcomes run.spec.duration run.startedAt) =
        .ok outcomes := mapM_eq_ok.2 (houtcomes.imp fun _ _ h => h.1)
    have hapart : (replies.map fun r => r.partition.workerIndex).Nodup := by
      have hindices := hnumbered.indices
      rw [List.map_map] at hindices
      exact hindices ▸ List.nodup_range
    refine ⟨outcomes, hmerged, nodup_flatten_of_numbered hall hapart,
      hall.imp fun _ _ h => h.worker, ?_⟩
    intro d hd
    obtain ⟨outcomes', record, hmerged', hrecord, hreport⟩ := merge_outcomes hd
    obtain rfl : outcomes' = outcomes := Except.ok.inj (hmerged'.symm.trans hmerged)
    exact ⟨record, hrecord, hreport⟩

/-- The second of two workers, which keeps three requests of four milliseconds in flight. -/
def secondWorker : Generator :=
  { script := { calls := [{ delay := .ofMillis 4 }] }, firstId := requestIdBase 1 }

def secondShare : Spec := { concurrency := some 3, duration := .ofMillis 10 }

/-- The replies of two workers, of which the first one was lost. -/
def secondReplies (r : Run) : List WorkerReply :=
  [⟨{ workerIndex := 0, users := 2, requestsPerSecond := none, rampUpOffset := .zero },
    .error (.workerFailure 0 "gone")⟩,
   ⟨{ workerIndex := 1, users := 3, requestsPerSecond := none, rampUpOffset := .zero },
    .ok (Coordinator.resultOf 1 r)⟩]

/-- Two requests are charged to the first worker, and six of nine were recorded by the second one. -/
theorem request_numbers_unique_half_lost :
    ∃ r outcomes, (executed? secondWorker secondShare).map Prod.fst = some r ∧
      (Schedule.concurrency 5).partition .zero 2 =
        .ok ((secondReplies r).map WorkerReply.partition) ∧
      (secondReplies r).mapM
        (fun reply => reply.outcomes halfLostRun.spec.duration halfLostRun.startedAt) =
        .ok outcomes ∧
      outcomes.map List.length = [2, 6] ∧ (outcomes.flatten.map Outcome.id).Nodup := by
  have hfigures : (executed? secondWorker secondShare).map (fun e =>
      (e.1.runner.outcomes.length, (measuredIds e.1.trace).length)) = some (6, 9) := by decide +kernel
  obtain ⟨⟨r, g⟩, hexecuted, hfigures⟩ := Option.map_eq_some_iff.1 hfigures
  obtain ⟨hrecorded, hstarted⟩ := Prod.mk.inj hfigures
  obtain ⟨schedule, -, hreach, -⟩ := reachable_of_execute (executed?_eq_some.1 hexecuted)
  have hplan : (Schedule.concurrency 5).partition .zero 2 =
      .ok ((secondReplies r).map WorkerReply.partition) := rfl
  have haccounts : ∀ reply ∈ secondReplies r, ∃ count < 2 ^ 40,
      Accounts halfLostRun.spec.duration reply count := by
    simp only [secondReplies, List.forall_mem_cons, List.not_mem_nil, false_implies, implies_true,
      and_true]
    exact ⟨⟨2, by decide, .charged ..⟩, 9, by decide, hstarted ▸ .started rfl hreach rfl⟩
  obtain ⟨-, hunique, -⟩ := request_numbers_unique _ _ _ _ hplan (by simp [secondReplies]) halfLostRun
  obtain ⟨outcomes, houtcomes, hdistinct, -, -⟩ := hunique _ rfl haccounts
  have hlengths := map_of_contributes
    ((mapM_eq_ok.1 houtcomes).imp fun _ _ => contributes_of_outcomes) fun _ _ h => h.length
  refine ⟨r, outcomes, by rw [hexecuted]; rfl, hplan, houtcomes, hlengths.trans ?_, hdistinct⟩
  rw [← hrecorded]
  rfl

end LoadTest.Proofs
