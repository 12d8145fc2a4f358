import LoadTest.Analysis.Comparison
import LoadTest.Analysis.Bottleneck
import LoadTest.Analysis.Trend
import LoadTest.Proofs.Collections
import LoadTest.Proofs.DecimalRounding
import LoadTest.Proofs.TextForms
import LoadTest.Schedule
import LoadTest.Tally

/-!
# Reading records back

What is written as a leaf, a list, an option, a choice or a map is read back. A record is read back
field by field, since its names are distinct.
-/

namespace LoadTest.Proofs

open Json

/-! ### Leaves -/

section Leaves

variable {n : ℕ} {x : Float}

lemma word?_nat (h : n < wordLimit) : Json.word? (.nat n) = some n := if_pos h

lemma float?_ofFloat (h : x.isFinite = true) : Json.float? (.ofFloat x) = some x := by
  unfold Json.ofFloat Json.float?
  rw [if_pos h]
  exact if_pos h

lemma uint64?_ofUInt64 (n : UInt64) : Json.uint64? (.ofUInt64 n) = some n := by
  have hlt : n.toNat < wordLimit := by
    have hword := n.toNat_lt
    unfold wordLimit
    omega
  unfold Json.uint64? Dialect.uint64? Json.ofUInt64 Json.dialect
  dsimp only
  rw [word?_nat hlt, Option.map_some, UInt64.ofNat_toNat]

lemma timestamp?_ofTimestamp (t : Timestamp) : Json.timestamp? (.ofTimestamp t) = some t := by
  have hread := timestamp_ofText?_toText t
  unfold Json.timestamp? Json.ofTimestamp
  generalize t.toText = text at hread
  exact hread

lemma runId?_ofRunId (id : RunId) : Json.runId? (.ofRunId id) = some id := by
  have hread := runId_ofText?_toText id
  unfold Json.runId? Json.ofRunId
  generalize id.toText = text at hread
  exact hread

end Leaves

/-! ### Collections -/

section Collections

variable {α β : Type} {read : Json → Option α} {write : α → Json}

lemma mapM_eq_some {f : α → Option β} {g : α → β} {l : List α} (h : ∀ a ∈ l, f a = some (g a)) :
    l.mapM f = some (l.map g) := by
  apply mapM_eq_some_of_forall₂
  rw [List.forall₂_map_right_iff, List.forall₂_same]
  exact h

lemma list?_ofList_map {γ : Type} {write : γ → Json} {f : γ → α} {l : List γ}
    (h : ∀ c ∈ l, read (write c) = some (f c)) :
    Json.list? read (.ofList write l) = some (l.map f) := by
  have hread : Json.list? read (.ofList write l) = (l.map write).mapM read := rfl
  rw [hread, List.mapM_map]
  exact mapM_eq_some h

lemma list?_ofList {l : List α} (h : ∀ a ∈ l, read (write a) = some a) :
    Json.list? read (.ofList write l) = some l := by
  have hread : Json.list? read (.ofList write l) = some (l.map id) := list?_ofList_map h
  rw [List.map_id] at hread
  exact hread

lemma optional_ofOption {o : Option α} (hnull : ∀ a ∈ o, (write a).isNull = false)
    (h : ∀ a ∈ o, read (write a) = some a) :
    Slot.optional Json.dialect read (.given (.ofOption write o)) = some o := by
  cases o with
  | none => rfl
  | some a =>
    have hread : Slot.optional Json.dialect read (.given (write a)) =
        if (write a).isNull then some none else (read (write a)).map some := rfl
    rw [Json.ofOption, hread, if_neg (by simp [hnull a rfl]), h a rfl, Option.map_some]

end Collections

/-! ### Records -/

section Records

variable {names : List String} {members : List (String × Json)}

lemma filter_name (hnodup : (members.map Prod.fst).Nodup) {m : String × Json} (hm : m ∈ members) :
    members.filter (fun (key, _) => key = m.1) = [m] := by
  induction members with
  | nil => simp at hm
  | cons first members ih =>
    rw [List.map_cons, List.nodup_cons] at hnodup
    obtain ⟨hfirst, hnodup⟩ := hnodup
    obtain rfl | hm := List.mem_cons.1 hm
    · rw [List.filter_cons_of_pos (by simp), List.filter_eq_nil_iff.2]
      intro e he heq
      exact hfirst (List.mem_map.2 ⟨e, he, of_decide_eq_true heq⟩)
    · rw [List.filter_cons_of_neg, ih hnodup hm]
      intro heq
      exact hfirst (List.mem_map.2 ⟨m, hm, (of_decide_eq_true heq).symm⟩)

/-- The slots of an object that names each field once, in order. -/
lemma slots?_obj (hnames : members.map Prod.fst = names) (hnodup : names.Nodup) :
    Json.slots? names (.obj members) = some (members.map fun m => .given m.2) := by
  subst hnames
  change Slot.ofMembers? _ members = _
  unfold Slot.ofMembers?
  rw [List.mapM_map]
  apply mapM_eq_some
  intro m hm
  simp only [Function.comp_apply, filter_name hnodup hm]

section Fields

variable {α β : Type} {read : Json → Option α} {v : Json} {a : α} {b : β} {next : α → Option β}

lemma bind_then {o : Option α} (h : o = some a) (hnext : next a = some b) :
    (o >>= next) = some b := by
  rw [h]
  exact hnext

/-- A field is read, and then those after it. -/
lemma read_then (h : read v = some a) (hnext : next a = some b) :
    (Slot.required read (.given v) >>= next) = some b :=
  bind_then h hnext

/-- A field that is given is read, whatever its default. -/
lemma orElse_then {default : α} (h : read v = some a) (hnext : next a = some b) :
    (Slot.orElse read default (.given v) >>= next) = some b :=
  bind_then h hnext

end Fields

lemma ofParts?_seconds (d : Duration) : Duration.ofParts? d.seconds d.subNanos = some d := by
  have hsum : d.seconds * 1000000000 + d.subNanos = d.nanos := by
    unfold Duration.seconds Duration.subNanos
    omega
  unfold Duration.ofParts? Duration.ofNanos?
  rw [hsum, dif_pos d.nanos_lt]

lemma duration?_ofDuration (d : Duration) : Json.duration? (.ofDuration d) = some d := by
  have hlt := d.nanos_lt
  have hseconds : d.seconds < wordLimit := by
    unfold Duration.seconds
    omega
  have hnanos : d.subNanos < 1000000000 := Nat.mod_lt _ (by decide)
  have hword : d.subNanos < wordLimit := by
    unfold wordLimit
    omega
  have hsmall : d.subNanos < 4294967296 := by omega
  have hparts := ofParts?_seconds d
  unfold Json.duration? Json.ofDuration
  rw [slots?_obj]
  · simp only [List.map_cons, List.map_nil, Slot.required, word?_nat hseconds, word?_nat hword,
      Option.bind_eq_bind, Option.bind_some]
    rw [if_pos (by simp [hsmall]), hparts]
  · rfl
  · decide

end Records

/-! ### Choices -/

section Choices

variable {α : Type} {name : α → String} {cases : List α} {a : α}

/-- A case is found by its name among cases with distinct names. -/
lemma choice?_name (hnodup : (cases.map name).Nodup) (ha : a ∈ cases) :
    Json.choice? (cases.map fun a => (name a, a)) (.str (name a)) = some a := by
  have hread : Json.choice? (cases.map fun a => (name a, a)) (.str (name a)) =
      List.lookup (name a) (cases.map fun a => (name a, a)) := rfl
  rw [hread]
  clear hread
  induction cases with
  | nil => simp at ha
  | cons first cases ih =>
    rw [List.map_cons, List.nodup_cons] at hnodup
    rw [List.map_cons, List.lookup_cons]
    obtain rfl | ha := List.mem_cons.1 ha
    · rw [beq_self_eq_true]
    · have hne : (name a == name first) = false := by
        rw [beq_eq_false_iff_ne]
        intro heq
        exact hnodup.1 (heq ▸ List.mem_map_of_mem ha)
      rw [hne]
      exact ih hnodup.2 ha

lemma choice?_metricKind (k : MetricKind) : Json.choice? MetricKind.cases (.str k.name) = some k :=
  choice?_name (by decide) (by cases k <;> decide)

lemma choice?_metricCategory (c : MetricCategory) :
    Json.choice? MetricCategory.cases (.str c.name) = some c :=
  choice?_name (by decide) (by cases c <;> decide)

lemma choice?_severity (s : Severity) : Json.choice? Severity.cases (.str s.name) = some s :=
  choice?_name (by decide) (by cases s <;> decide)

lemma choice?_significance (s : Significance) :
    Json.choice? Significance.cases (.str s.name) = some s :=
  choice?_name (by decide) (by cases s <;> decide)

lemma choice?_trendDirection (d : TrendDirection) :
    Json.choice? TrendDirection.cases (.str d.name) = some d :=
  choice?_name (by decide) (by cases d <;> decide)

lemma choice?_bottleneckKind (k : BottleneckKind) :
    Json.choice? BottleneckKind.cases (.str k.name) = some k :=
  choice?_name (by decide) (by cases k <;> decide)

/-- Nothing in a schedule is too deep, or too large, to be held until its mode is known. -/
lemma isHeld_schedule {schedule : Schedule} {enclosing : ℕ} (henclosing : enclosing < 127)
    (hrate : ∀ x, schedule = .rate x → x.isFinite = true)
    (husers : ∀ n, schedule = .concurrency n → n < wordLimit) :
    schedule.toJson.isHeld enclosing = true := by
  have hshallow : enclosing + 1 < 128 := by omega
  cases schedule with
  | concurrency users =>
    have hword : users < 2 ^ 64 := husers users rfl
    have hfinite : (Float.ofNat users).isFinite = true := isFinite_of_rank (rank_ofNat_lt hword)
    have hread : (Schedule.concurrency users).toJson.isHeld enclosing =
        ((true && ((Float.ofNat users).isFinite && true)) && decide (enclosing + 1 < 128)) := rfl
    simp [hread, hfinite, hshallow]
  | rate x =>
    have hfinite := hrate x rfl
    have hread : (Schedule.rate x).toJson.isHeld enclosing =
        ((true && ((Json.ofFloat x).isReadable && true)) &&
          decide (enclosing + (max 0 (max (Json.ofFloat x).depth 0) + 1) < 128)) := rfl
    simp [hread, Json.ofFloat, hfinite, Json.isReadable, Json.depth, hshallow]

/-- The mode of a schedule is told by its tag, and its load by the other member. -/
lemma schedule_ofJson?_toJson {schedule : Schedule} {enclosing : ℕ} (henclosing : enclosing < 127)
    (hrate : ∀ x, schedule = .rate x → x.isFinite = true)
    (husers : ∀ n, schedule = .concurrency n → n < wordLimit) :
    Schedule.ofJson? false enclosing schedule.toJson = some schedule := by
  have hheld := isHeld_schedule henclosing hrate husers
  unfold Schedule.ofJson?
  rw [hheld]
  cases schedule with
  | concurrency users =>
    have htag : (Schedule.concurrency users).toJson.tagged? "mode" =
        some (.str "concurrency", .obj [("concurrency", .nat users)]) := by
      simp [Schedule.toJson, Json.tagged?]
    have hmode : Schedule.isConcurrency? false (.str "concurrency") = some true := by decide +kernel
    have hslots : Json.slots? ["concurrency"] (.obj [("concurrency", .nat users)]) =
        some [.given (.nat users)] := slots?_obj rfl (by decide)
    simp only [htag, hmode, hslots, Slot.required, word?_nat (husers users rfl), Bool.not_true,
      Option.bind_eq_bind, Option.bind_some]
    rfl
  | rate x =>
    have htag : (Schedule.rate x).toJson.tagged? "mode" =
        some (.str "rate", .obj [("requests_per_second", .ofFloat x)]) := by
      simp [Schedule.toJson, Json.tagged?]
    have hmode : Schedule.isConcurrency? false (.str "rate") = some false := by decide +kernel
    have hslots : Json.slots? ["requests_per_second"]
        (.obj [("requests_per_second", .ofFloat x)]) = some [.given (.ofFloat x)] :=
      slots?_obj rfl (by decide)
    simp only [htag, hmode, hslots, Slot.required, float?_ofFloat (hrate x rfl), Bool.not_true,
      Option.bind_eq_bind, Option.bind_some]
    rfl

end Choices

/-! ### Tallies -/

section Tallies

variable {β : Type}

/-- A name beyond all others is put last. -/
lemma alterList_of_forall_lt {name : String} {f : Option β → β} {l : List (String × β)}
    (h : ∀ e ∈ l, e.1 < name) : NameMap.alterList name f l = l ++ [(name, f none)] := by
  induction l with
  | nil => rfl
  | cons e l ih =>
    have hlt : e.1 < name := h e List.mem_cons_self
    have hrest := ih fun e' he' => h e' (List.mem_cons_of_mem e he')
    have hge : ¬name < e.1 := fun hgt => String.lt_irrefl _ (String.lt_trans hlt hgt)
    have hne : name ≠ e.1 := fun heq => String.lt_irrefl name (heq ▸ hlt)
    rw [NameMap.alterList, if_neg hge, if_neg hne, hrest]
    rfl

/-- Entries that are read in ascending order are put behind one another. -/
lemma foldlM_insert {rest : List (String × ℕ)} (hcounts : ∀ e ∈ rest, e.2 < wordLimit)
    (t : Tally) (h : (t.entries ++ rest).Pairwise fun a b => a.1 < b.1) :
    (rest.map fun (text, n) => (text, Json.nat n)).foldlM (fun (t : Tally) (text, value) =>
      (value.word?).map (NameMap.insert t text)) t = some ⟨t.entries ++ rest, h⟩ := by
  induction rest generalizing t with
  | nil =>
    simp
  | cons e rest ih =>
    obtain ⟨text, n⟩ := e
    have hn : n < wordLimit := hcounts (text, n) List.mem_cons_self
    have hlast : ∀ e ∈ t.entries, e.1 < text := by
      intro e he
      exact (List.pairwise_append.1 h).2.2 e he (text, n) List.mem_cons_self
    have hentries : (t.insert text n).entries = t.entries ++ [(text, n)] :=
      alterList_of_forall_lt hlast
    have hascending : ((t.insert text n).entries ++ rest).Pairwise fun a b => a.1 < b.1 := by
      rw [hentries, List.append_assoc]
      exact h
    have hrest := ih (fun e he => hcounts e (List.mem_cons_of_mem _ he)) (t.insert text n) hascending
    rw [List.map_cons, List.foldlM_cons]
    simp only [word?_nat hn, Option.map_some, Option.bind_eq_bind, Option.bind_some, hrest, hentries,
      List.append_assoc, List.cons_append, List.nil_append]

lemma tally_ofJson?_toJson {t : Tally} (h : ∀ e ∈ t.entries, e.2 < wordLimit) :
    Tally.ofJson? (Tally.toJson t) = some t :=
  foldlM_insert h NameMap.empty t.ascending

end Tallies

end LoadTest.Proofs
