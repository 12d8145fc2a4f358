import LoadTest.Proofs.LosslessReports
import LoadTest.Proofs.MergeAdditivity
import LoadTest.Proofs.WorkerShares

/-!
# What the records of a distributed run lose

The share of a worker and its summary write the offset of the rise in whole milliseconds, though a
plan divides the rise to the nanosecond. All else of a share, and of the report of a distributed
run, is read back, so that the offsets alone decide whether a record is lossless.
-/

namespace LoadTest.Proofs

open HasFigures

/-! ### Durations in milliseconds -/

/-- What is read of a duration written in milliseconds. -/
def inMillis (d : Duration) : Duration := .ofMillis (.ofNat d.wireMillis)

/-- Whether a duration is a number of milliseconds of 64 bits. -/
def IsWholeMillis (d : Duration) : Prop := d.nanos % 1000000 = 0 ∧ d.nanos / 1000000 < wordLimit

lemma wireMillis_lt (d : Duration) : d.wireMillis < wordLimit := Nat.mod_lt _ (by decide)

lemma nanos_inMillis (d : Duration) : (inMillis d).nanos = d.wireMillis * 1000000 := by
  have hword : (UInt64.ofNat d.wireMillis).toNat = d.wireMillis :=
    Nat.mod_eq_of_lt (wireMillis_lt d)
  exact congrArg (· * 1000000) hword

lemma millis?_ofMillis (d : Duration) : Json.millis? (.ofMillis d) = some (inMillis d) := by
  have hword : Json.word? (.nat d.wireMillis) = some d.wireMillis := word?_nat (wireMillis_lt d)
  unfold Json.millis? Dialect.millis? Dialect.uint64? Json.ofMillis Json.dialect
  dsimp only
  rw [hword]
  rfl

lemma inMillis_eq_iff {d : Duration} : inMillis d = d ↔ IsWholeMillis d := by
  have hnanos := nanos_inMillis d
  unfold Duration.wireMillis Duration.millis at hnanos
  unfold IsWholeMillis
  have hword : 0 < wordLimit := by decide
  constructor
  · intro heq
    rw [heq] at hnanos
    have hlt := Nat.mod_lt (d.nanos / 1000000) hword
    omega
  · rintro ⟨hwhole, hlt⟩
    apply duration_ext
    rw [Nat.mod_eq_of_lt hlt] at hnanos
    omega

/-! ### Shares -/

section Shares

variable {p : WorkerPartition}

/-- A share as it is read back. -/
def readShare (p : WorkerPartition) : WorkerPartition :=
  { p with rampUpOffset := inMillis p.rampUpOffset }

lemma optional_ofFloat {o : Option Float} (h : ∀ x ∈ o, x.isFinite = true) :
    Slot.optional Json.dialect Json.float? (.given (.ofOption .ofFloat o)) = some o := by
  refine optional_ofOption ?_ fun x hx => float?_ofFloat (h x hx)
  intro x hx
  unfold Json.ofFloat
  rw [if_pos (h x hx)]
  rfl

lemma partition_ofJson?_toJson (hindex : p.workerIndex < wordLimit) (husers : p.users < wordLimit)
    (hrate : ∀ x ∈ p.requestsPerSecond, x.isFinite = true) :
    WorkerPartition.ofJson? p.toJson = some (readShare p) := by
  refine bind_then (slots?_obj rfl (by decide)) ?_
  exact read_then (word?_nat hindex) <| read_then (word?_nat husers) <|
    bind_then (optional_ofFloat hrate) <| read_then (millis?_ofMillis p.rampUpOffset) rfl

lemma readShare_eq_iff : readShare p = p ↔ IsWholeMillis p.rampUpOffset := by
  rw [← inMillis_eq_iff]
  constructor
  · intro heq
    exact congrArg WorkerPartition.rampUpOffset heq
  · intro heq
    unfold readShare
    rw [heq]

/-- Every share of a plan is read back up to its offset. -/
lemma planned_ofJson?_toJson {spec : Spec} {schedule : Schedule} {rampUp : Duration}
    {parallelism : ℕ} {ps : List WorkerPartition} (hvalid : spec.validate = .ok schedule)
    (husers : ∀ n, schedule = .concurrency n → n < wordLimit)
    (hplan : schedule.partition rampUp parallelism = .ok ps) (hp : p ∈ ps) :
    WorkerPartition.ofJson? p.toJson = some (readShare p) := by
  obtain ⟨hfew, hisPlan⟩ := isPlan_length hplan
  have hworker := hisPlan.planned p hp
  have hsmall : longestList < wordLimit := by decide
  have hindex : p.workerIndex < wordLimit := (hworker.index.trans_le hfew).trans hsmall
  cases schedule with
  | concurrency total =>
    have hrate : p.requestsPerSecond = none := congrArg Prod.snd hworker.load
    refine partition_ofJson?_toJson hindex (hworker.users_le.trans_lt (husers total rfl)) ?_
    simp [hrate]
  | rate x =>
    have hzero : p.users = 0 := congrArg Prod.fst hworker.load
    have hrate : p.requestsPerSecond = some (x / .ofNat ps.length) := congrArg Prod.snd hworker.load
    obtain ⟨hpos, hfinite, -⟩ := validate_rate hvalid
    refine partition_ofJson?_toJson hindex (by rw [hzero]; decide) ?_
    intro y hy
    rw [hrate, Option.mem_some] at hy
    exact hy ▸ isFinite_of_rank (rank_planned hpos hfinite hplan).2

lemma plain_partition (p : WorkerPartition) : Plain p.toJson := by
  simp [WorkerPartition.toJson]

end Shares

/-! ### Reports of distributed runs -/

section Merged

instance : HasFigures WorkerSummary where
  floats w := w.requestsPerSecond.toList
  counts w := [w.workerIndex, w.users, w.recordedRequests]

instance : HasFigures DistributedReport where
  floats d := floats d.report ++ floats d.workers
  counts d := counts d.report ++ counts d.workers

/-- A summary as it is read back. -/
def readSummary (w : WorkerSummary) : WorkerSummary :=
  { w with rampUpOffset := inMillis w.rampUpOffset }

/-- The report of a distributed run as it is read back. -/
def readReport (d : DistributedReport) : DistributedReport :=
  { d with workers := d.workers.map readSummary }

lemma summary_ofJson?_toJson {w : WorkerSummary} (h : Storable w) :
    WorkerSummary.ofJson? w.toJson = some (readSummary w) := by
  obtain ⟨hfinite, hcounts⟩ := h
  have hrate : ∀ x ∈ w.requestsPerSecond, x.isFinite = true := by
    intro x hx
    exact hfinite x (Option.mem_toList.2 hx)
  simp only [counts, List.forall_mem_cons] at hcounts
  obtain ⟨hindex, husers, hrecorded, -⟩ := hcounts
  have hfailure : Slot.optional Json.dialect Json.text? (.given (.ofOption .str w.failure)) =
      some w.failure := optional_ofOption (fun _ _ => rfl) fun _ _ => rfl
  refine bind_then (slots?_obj rfl (by decide)) ?_
  exact read_then (word?_nat hindex) <| read_then (word?_nat husers) <|
    bind_then (optional_ofFloat hrate) <| read_then (millis?_ofMillis w.rampUpOffset) <|
    read_then (word?_nat hrecorded) <| bind_then hfailure rfl

lemma distributed_ofJson?_toJson {d : DistributedReport} (h : Storable d) :
    DistributedReport.ofJson? d.toJson = some (readReport d) := by
  obtain ⟨hreport, hworkers⟩ := inRange_append.1 h
  have hworkers : Json.list? WorkerSummary.ofJson? (.ofList WorkerSummary.toJson d.workers) =
      some (d.workers.map readSummary) :=
    list?_ofList_map fun w hw => summary_ofJson?_toJson (storable_list hworkers hw)
  refine bind_then (slots?_obj rfl (by decide)) ?_
  exact read_then (report_ofJson?_toJson (by decide) hreport) <| read_then hworkers rfl

lemma readReport_eq_iff {d : DistributedReport} :
    readReport d = d ↔ ∀ w ∈ d.workers, IsWholeMillis w.rampUpOffset := by
  have hsummary : ∀ w, readSummary w = w ↔ IsWholeMillis w.rampUpOffset := by
    intro w
    rw [← inMillis_eq_iff]
    constructor
    · intro heq
      exact congrArg WorkerSummary.rampUpOffset heq
    · intro heq
      unfold readSummary
      rw [heq]
  have hworkers : readReport d = d ↔ d.workers.map readSummary = d.workers := by
    constructor
    · intro heq
      exact congrArg DistributedReport.workers heq
    · intro heq
      unfold readReport
      rw [heq]
  have hmap := List.map_inj_left (f := readSummary) (g := id) (l := d.workers)
  rw [List.map_id] at hmap
  rw [hworkers, hmap]
  exact forall₂_congr fun w _ => hsummary w

@[simp] lemma plain_summary (w : WorkerSummary) : Plain w.toJson := by
  simp [WorkerSummary.toJson]

lemma plain_distributed (d : DistributedReport) : Plain d.toJson := by
  simp [DistributedReport.toJson]

end Merged

/-- The records of a distributed run lose what its offsets have below a millisecond, and nothing
else. The offset of a worker is its part of the rise to the nanosecond, with its number and that of
all workers taken in 32 bits, but it is written in whole milliseconds: a share, and a merged report of
finite figures, is read back with its offsets cut off. So a share is lossless just if its offset is a
whole number of milliseconds, and a merged report if the offsets of all shares are. -/
theorem distributed_records_cut_offsets (spec : Spec) (schedule : Schedule) (rampUp : Duration)
    (parallelism : ℕ) (ps : List WorkerPartition) (hvalid : spec.validate = .ok schedule)
    (husers : ∀ n, schedule = .concurrency n → n < wordLimit)
    (hplan : schedule.partition rampUp parallelism = .ok ps) :
    (∀ p ∈ ps,
      p.rampUpOffset.nanos = rampUp.nanos * (p.workerIndex % 2 ^ 32) / (ps.length % 2 ^ 32) ∧
      reread WorkerPartition.toJson WorkerPartition.ofJson? p = some (readShare p) ∧
      (reread WorkerPartition.toJson WorkerPartition.ofJson? p = some p ↔
        IsWholeMillis p.rampUpOffset)) ∧
    ∀ (run : DistributedRun) (replies : List WorkerReply) (d : DistributedReport),
      replies.map WorkerReply.partition = ps → run.merge replies = .ok d → Storable d →
      reread DistributedReport.toJson DistributedReport.ofJson? d = some (readReport d) ∧
      (reread DistributedReport.toJson DistributedReport.ofJson? d = some d ↔
        ∀ p ∈ ps, IsWholeMillis p.rampUpOffset) := by
  obtain ⟨-, hisPlan⟩ := isPlan_length hplan
  have hread : ∀ p ∈ ps,
      reread WorkerPartition.toJson WorkerPartition.ofJson? p = some (readShare p) := by
    intro p hp
    rw [reread_eq (plain_partition p), planned_ofJson?_toJson hvalid husers hplan hp]
  refine ⟨fun p hp => ⟨(hisPlan.planned p hp).offset, hread p hp, ?_⟩, ?_⟩
  · rw [hread p hp, Option.some_inj]
    exact readShare_eq_iff
  · intro run replies d hreplies hmerge hstorable
    have hworkers := (merge_addsUp hmerge).workers
    have hread : reread DistributedReport.toJson DistributedReport.ofJson? d =
        some (readReport d) := by
      rw [reread_eq (plain_distributed d), distributed_ofJson?_toJson hstorable]
    refine ⟨hread, ?_⟩
    rw [hread, Option.some_inj, readReport_eq_iff, hworkers, List.forall_mem_map, ← hreplies,
      List.forall_mem_map]
    rfl

/-- One user for each of three workers, over a rise of a second. -/
def threeUsers : Spec :=
  { concurrency := some 3, duration := .ofMillis 1000, rampUp := .ofMillis 1000 }

/-- The shares of three workers that split a rise of a second. -/
def thirds : List WorkerPartition :=
  [{ workerIndex := 0, users := 1, requestsPerSecond := none, rampUpOffset := .zero },
   { workerIndex := 1, users := 1, requestsPerSecond := none,
     rampUpOffset := { nanos := 333333333 } },
   { workerIndex := 2, users := 1, requestsPerSecond := none,
     rampUpOffset := { nanos := 666666666 } }]

/-- A run that is cancelled before the first request. -/
def emptyRun : DistributedRun where
  runId := .nil
  spec := threeUsers
  schedule := .concurrency 3
  startedAt := .epoch
  finishedAt := .epoch
  elapsed := .ofMillis 1000
  sampler := {}
  throughputWindow := .ofMillis 100

def emptyReplies : List WorkerReply :=
  thirds.map fun p => ⟨p, .ok
    { workerIndex := p.workerIndex, outcomes := [], abandonedRequests := 0, skippedRequests := 0,
      resourceSamples := [], failure := none }⟩

theorem distributed_records_cut_offsets_thirds :
    threeUsers.validate = .ok (.concurrency 3) ∧
    (Schedule.concurrency 3).partition threeUsers.rampUp 3 = .ok thirds ∧
    (thirds.map fun p =>
      (reread WorkerPartition.toJson WorkerPartition.ofJson? p).map (·.rampUpOffset.nanos)) =
      [some 0, some 333000000, some 666000000] ∧
    ∃ d, emptyRun.merge emptyReplies = .ok d ∧ Storable d ∧
      reread DistributedReport.toJson DistributedReport.ofJson? d = some (readReport d) ∧
      reread DistributedReport.toJson DistributedReport.ofJson? d ≠ some d := by
  have hvalid : threeUsers.validate = .ok (.concurrency 3) := rfl
  have hplan : (Schedule.concurrency 3).partition threeUsers.rampUp 3 = .ok thirds := rfl
  obtain ⟨hshares, hmerged⟩ := distributed_records_cut_offsets threeUsers (.concurrency 3)
    threeUsers.rampUp 3 thirds hvalid (by rintro _ ⟨⟩; decide) hplan
  refine ⟨hvalid, hplan, ?_, ?_⟩
  · have hread : ∀ p ∈ thirds,
        (reread WorkerPartition.toJson WorkerPartition.ofJson? p).map (·.rampUpOffset.nanos) =
          some (readShare p).rampUpOffset.nanos := by
      intro p hp
      rw [(hshares p hp).2.1]
      rfl
    rw [List.map_congr_left hread]
    decide
  · have hsome : (emptyRun.merge emptyReplies).toOption.any
        (fun d => decide (Storable d)) = true := by
      decide +kernel
    obtain ⟨d, hd, hstorable⟩ := (Option.any_eq_true _ _).1 hsome
    have hmerge : emptyRun.merge emptyReplies = .ok d := by
      cases hresult : emptyRun.merge emptyReplies with
      | error fault =>
        rw [hresult] at hd
        cases hd
      | ok d' =>
        rw [hresult] at hd
        cases hd
        rfl
    have hstorable : Storable d := of_decide_eq_true hstorable
    obtain ⟨hread, hlossless⟩ := hmerged emptyRun emptyReplies d rfl hmerge hstorable
    refine ⟨d, hmerge, hstorable, hread, ?_⟩
    intro heq
    have hwhole := (hlossless.1 heq _ (List.mem_cons_of_mem _ List.mem_cons_self)).1
    exact absurd hwhole (by decide)

/-- The offset of the second of three workers is cut off at its third of a millisecond. -/
theorem planned_share_not_read_back :
    ∃ ps p, (Schedule.concurrency 3).partition threeUsers.rampUp 3 = .ok ps ∧ p ∈ ps ∧
      p.rampUpOffset.nanos = 333333333 ∧
      reread WorkerPartition.toJson WorkerPartition.ofJson? p ≠ some p := by
  have hvalid : threeUsers.validate = .ok (.concurrency 3) := rfl
  have hplan : (Schedule.concurrency 3).partition threeUsers.rampUp 3 = .ok thirds := rfl
  have hsecond : thirds[1] ∈ thirds := List.getElem_mem _
  refine ⟨thirds, thirds[1], hplan, hsecond, rfl, ?_⟩
  rw [reread_eq (plain_partition _),
    planned_ofJson?_toJson hvalid (by rintro _ ⟨⟩; decide) hplan hsecond]
  intro heq
  have hwhole := (readShare_eq_iff.1 (Option.some.inj heq)).1
  exact absurd hwhole (by decide)

end LoadTest.Proofs
