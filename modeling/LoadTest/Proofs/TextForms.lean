import LoadTest.Proofs.Calendar
import LoadTest.RunId
import LoadTest.Time.Timestamp

/-!
# Text forms read back

The text of a timestamp and the text of a run identifier are read back as what was written. Numbers
are written with all the digits of their field, so that a reader who takes as many digits as the
field has takes the number and leaves the rest.
-/

namespace LoadTest.Proofs

open Timestamp

/-! ### Numbers -/

section Digits

variable {width n : ℕ} {ds rest : List Char} {c : Char}

/-- The digits of a padded number. -/
lemma toList_padded (width n : ℕ) : (padded width n).toList =
    List.replicate (width - (Nat.toDigits 10 n).length) '0' ++ Nat.toDigits 10 n :=
  String.toList_ofList

lemma isDigit_of_mem_padded (h : c ∈ (padded width n).toList) : c.isDigit = true := by
  rw [toList_padded, List.mem_append] at h
  obtain h | h := h
  · rw [List.eq_of_mem_replicate h]
    rfl
  · exact Nat.isDigit_of_mem_toDigits (by decide) (by decide) h

lemma padded_ne_nil (width n : ℕ) : (padded width n).toList ≠ [] := by
  rw [toList_padded]
  exact List.append_ne_nil_of_right_ne_nil _ Nat.toDigits_ne_nil

/-- A text that begins with a padded number begins with a digit. -/
lemma padded_append_ne (h : c.isDigit = false) (l l' : List Char) :
    (padded width n).toList ++ l ≠ c :: l' := by
  intro heq
  obtain ⟨d, ds, hds⟩ := List.exists_cons_of_ne_nil (padded_ne_nil width n)
  have hmem : d ∈ (padded width n).toList := by simp [hds]
  have hd : d.isDigit = true := isDigit_of_mem_padded hmem
  rw [hds, List.cons_append, List.cons.injEq] at heq
  rw [heq.1, h] at hd
  cases hd

lemma length_padded (hwidth : 0 < width) (h : n < 10 ^ width) :
    (padded width n).toList.length = width := by
  have hlength : (Nat.toDigits 10 n).length ≤ width :=
    (Nat.length_toDigits_le_iff (by decide) hwidth).2 h
  rw [toList_padded, List.length_append, List.length_replicate]
  omega

/-- The value of some digits. -/
def digitsValue (ds : List Char) : ℕ := ds.foldl (fun n c => n * 10 + digitValue c) 0

lemma digitsValue_eq (ds : List Char) : digitsValue ds = Nat.ofDigitChars 10 ds 0 := by
  unfold digitsValue Nat.ofDigitChars
  congr 1
  funext n c
  rw [Nat.mul_comm]
  rfl

lemma digitsValue_padded (width n : ℕ) : digitsValue (padded width n).toList = n := by
  rw [digitsValue_eq, toList_padded, Nat.ofDigitChars_append, Nat.ofDigitChars_replicate_zero,
    Nat.mul_zero, Nat.ofDigitChars_ten_toDigits]

lemma takeWhile_digits (hds : ∀ c ∈ ds, c.isDigit = true)
    (hrest : ∀ c, rest.head? = some c → c.isDigit = false) :
    (ds ++ rest).takeWhile Char.isDigit = ds := by
  rw [List.takeWhile_append_of_pos hds]
  cases rest with
  | nil => exact List.append_nil ds
  | cons c rest => simp [hrest c rfl]

lemma dropWhile_digits (hds : ∀ c ∈ ds, c.isDigit = true)
    (hrest : ∀ c, rest.head? = some c → c.isDigit = false) :
    (ds ++ rest).dropWhile Char.isDigit = rest := by
  rw [List.dropWhile_append_of_pos hds]
  cases rest with
  | nil => rfl
  | cons c rest => simp [hrest c rfl]

/-- A number is read to the end of its field, or of its digits. -/
lemma takeNumber_append (hds : ∀ c ∈ ds, c.isDigit = true) (hne : ds ≠ [])
    (hstop : ds.length = width ∨
      ds.length ≤ width ∧ ∀ c, rest.head? = some c → c.isDigit = false) :
    takeNumber width (ds ++ rest) = some (digitsValue ds, rest) := by
  have htaken : ((ds ++ rest).take width).takeWhile Char.isDigit = ds := by
    obtain rfl | ⟨hle, hrest⟩ := hstop
    · rw [List.take_left, List.takeWhile_eq_self_iff.2 hds]
    · rw [List.take_append, List.take_of_length_le hle]
      refine takeWhile_digits hds fun c hc => hrest c ?_
      rw [List.head?_take] at hc
      split at hc
      · cases hc
      · exact hc
  unfold takeNumber
  rw [htaken]
  simp [hne, digitsValue]

lemma isBlank_of_isDigit (h : c.isDigit = true) : isBlank c = false := by
  have hrange : 48 ≤ c.toNat ∧ c.toNat ≤ 57 := Char.isDigit_iff_toNat.1 h
  simp only [isBlank, blankRanges, List.any_eq_false, Bool.and_eq_true, decide_eq_true_eq]
  intro range hrange
  simp only [List.mem_cons, List.not_mem_nil, or_false] at hrange
  rcases hrange with rfl | rfl | rfl | rfl | rfl | rfl | rfl | rfl | rfl | rfl <;> omega

lemma trimFront_cons (h : isBlank c = false) (rest : List Char) :
    trimFront (c :: rest) = c :: rest := by
  unfold trimFront
  rw [List.dropWhile_cons_of_neg (by simp [h])]

lemma trimFront_padded (width n : ℕ) (rest : List Char) :
    trimFront ((padded width n).toList ++ rest) = (padded width n).toList ++ rest := by
  obtain ⟨c, cs, hcs⟩ := List.exists_cons_of_ne_nil (padded_ne_nil width n)
  have hc : c ∈ (padded width n).toList := by simp [hcs]
  rw [hcs, List.cons_append, trimFront_cons (isBlank_of_isDigit (isDigit_of_mem_padded hc))]

/-- A field of a timestamp is read back. -/
lemma takeField_padded (hwidth : 0 < width) (h : n < 10 ^ width) (rest : List Char) :
    takeField width ((padded width n).toList ++ rest) = some (n, rest) := by
  unfold takeField
  rw [trimFront_padded, takeNumber_append (fun c => isDigit_of_mem_padded) (padded_ne_nil width n)
    (.inl (length_padded hwidth h)), digitsValue_padded]

lemma takeMark_cons (h : isBlank c = false) (rest : List Char) :
    takeMark c (c :: rest) = some rest := by
  unfold takeMark
  rw [trimFront_cons h]
  exact if_pos rfl

end Digits

/-! ### Timestamps -/

section Times

variable {n : ℕ} {rest : List Char}

lemma takeYear_yearText (year : ℤ) (rest : List Char) :
    takeYear ((yearText year).toList ++ '-' :: rest) = some (year, '-' :: rest) := by
  have hsigned : ∀ n : ℕ, takeNumber ((padded 4 n).toList ++ '-' :: rest).length
      ((padded 4 n).toList ++ '-' :: rest) = some (n, '-' :: rest) := by
    intro n
    rw [takeNumber_append (fun c => isDigit_of_mem_padded) (padded_ne_nil 4 n)
      (.inr ⟨by simp, by simp⟩), digitsValue_padded]
  unfold yearText
  by_cases hplain : (0 ≤ year && year ≤ 9999) = true
  · rw [if_pos hplain]
    rw [Bool.and_eq_true, decide_eq_true_eq, decide_eq_true_eq] at hplain
    have hnumber : takeNumber 4 ((padded 4 year.toNat).toList ++ '-' :: rest) =
        some (year.toNat, '-' :: rest) := by
      rw [takeNumber_append (fun c => isDigit_of_mem_padded) (padded_ne_nil 4 _)
        (.inl (length_padded (by decide) (by omega))), digitsValue_padded]
    unfold takeYear
    rw [trimFront_padded]
    split
    · next heq => exact (padded_append_ne rfl _ _ heq).elim
    · next heq => exact (padded_append_ne rfl _ _ heq).elim
    · rw [hnumber, Option.map_some]
      dsimp only
      rw [Int.toNat_of_nonneg hplain.1]
  · rw [if_neg hplain, String.toList_append]
    by_cases hnegative : year < 0
    · have hyear : -(year.natAbs : ℤ) = year := by omega
      have hread : takeYear ('-' :: ((padded 4 year.natAbs).toList ++ '-' :: rest)) =
          some (year, '-' :: rest) := by
        have hblank := trimFront_cons (c := '-') (by decide)
          ((padded 4 year.natAbs).toList ++ '-' :: rest)
        simp only [takeYear, hblank, hsigned, Option.map_some, hyear]
      rw [if_pos hnegative]
      exact hread
    · rw [Bool.and_eq_true, decide_eq_true_eq, decide_eq_true_eq] at hplain
      have hyear : (year.natAbs : ℤ) = year := by omega
      have hread : takeYear ('+' :: ((padded 4 year.natAbs).toList ++ '-' :: rest)) =
          some (year, '-' :: rest) := by
        have hblank := trimFront_cons (c := '+') (by decide)
          ((padded 4 year.natAbs).toList ++ '-' :: rest)
        simp only [takeYear, hblank, hsigned, Option.map_some, hyear]
      rw [if_neg hnegative]
      exact hread

lemma takeFraction_padded (width : ℕ) (hwidth : 0 < width) (hle : width ≤ 9) (h : n < 10 ^ width)
    (rest : List Char) :
    takeFraction ('.' :: ((padded width n).toList ++ 'Z' :: rest)) =
      some (n * 10 ^ (9 - width), 'Z' :: rest) := by
  have hlength := length_padded hwidth h
  have hdigits : ((padded width n).toList ++ 'Z' :: rest).takeWhile Char.isDigit =
      (padded width n).toList := by
    refine takeWhile_digits (fun c => isDigit_of_mem_padded) ?_
    rintro _ ⟨⟩
    rfl
  have hkept : (padded width n).toList.take 9 = (padded width n).toList :=
    List.take_of_length_le (by omega)
  have hvalue := digitsValue_padded width n
  unfold digitsValue at hvalue
  simp only [takeFraction, hdigits, hkept, hvalue, List.drop_left]
  rw [hlength, if_neg (by simpa using padded_ne_nil width n)]
  rfl

lemma takeFraction_fractionText (h : n < 1000000000) (rest : List Char) :
    takeFraction ((fractionText n).toList ++ 'Z' :: rest) = some (n, 'Z' :: rest) := by
  have hpoint : ∀ width k : ℕ, takeFraction (("." ++ padded width k).toList ++ 'Z' :: rest) =
      takeFraction ('.' :: ((padded width k).toList ++ 'Z' :: rest)) := by
    intro width k
    rw [String.toList_append]
    rfl
  unfold fractionText
  split
  · next hzero =>
    rw [hzero]
    rfl
  · split
    · next hmillis =>
      rw [hpoint, takeFraction_padded 3 (by decide) (by decide) (by omega)]
      have hvalue : n / 1000000 * 10 ^ (9 - 3) = n := by omega
      rw [hvalue]
    · split
      · next hmicros =>
        rw [hpoint, takeFraction_padded 6 (by decide) (by decide) (by omega)]
        have hvalue : n / 1000 * 10 ^ (9 - 6) = n := by omega
        rw [hvalue]
      · rw [hpoint, takeFraction_padded 9 (by decide) (by decide) (by omega), Nat.sub_self,
          Nat.pow_zero, Nat.mul_one]

/-- A two-digit field of a timestamp. -/
lemma takeField_two (h : n < 100) (rest : List Char) :
    takeField 2 ((padded 2 n).toList ++ rest) = some (n, rest) :=
  takeField_padded (by decide) h rest

def writtenDate (date : Date) : List Char :=
  (yearText date.year).toList ++ '-' :: ((padded 2 date.month).toList ++ '-' ::
    (padded 2 date.day).toList)

def writtenClock (hour minute second : ℕ) : List Char :=
  (padded 2 hour).toList ++ ':' :: ((padded 2 minute).toList ++ ':' :: (padded 2 second).toList)

lemma lt_hundred_of_isValid {date : Date} (h : date.isValid = true) :
    date.month < 100 ∧ date.day < 100 := by
  have hdays : Date.daysInMonth date.year date.month ≤ 31 := by
    unfold Date.daysInMonth
    split_ifs <;> decide
  simp only [Date.isValid, Bool.and_eq_true, decide_eq_true_eq] at h
  omega

lemma takeDate_writtenDate {date : Date} (h : date.isValid = true) (rest : List Char) :
    takeDate (writtenDate date ++ rest) = some (date, rest) := by
  obtain ⟨hmonth, hday⟩ := lt_hundred_of_isValid h
  have hhyphen : ∀ rest, takeMark '-' ('-' :: rest) = some rest := takeMark_cons (by decide)
  unfold takeDate writtenDate
  simp only [List.append_assoc, List.cons_append, takeYear_yearText, hhyphen,
    takeField_two hmonth, takeField_two hday, Option.bind_eq_bind, Option.bind_some]

lemma takeClock_writtenClock {hour minute second : ℕ} (hhour : hour ≤ 23) (hminute : minute ≤ 59)
    (hsecond : second ≤ 60) (rest : List Char) :
    takeClock (writtenClock hour minute second ++ rest) = some ((hour, minute, second), rest) := by
  have hhour' : hour < 100 := by omega
  have hminute' : minute < 100 := by omega
  have hsecond' : second < 100 := by omega
  have hcolon : ∀ rest, takeMark ':' (':' :: rest) = some rest := takeMark_cons (by decide)
  unfold takeClock writtenClock
  simp only [List.append_assoc, List.cons_append, hcolon, takeField_two hhour',
    takeField_two hminute', takeField_two hsecond', Option.bind_eq_bind, Option.bind_some]

lemma toList_toText (t : Timestamp) : t.toText.toList =
    writtenDate (Date.ofDays (t.seconds / 86400)) ++ 'T' ::
      (writtenClock ((t.seconds % 86400).toNat / 3600) ((t.seconds % 86400).toNat / 60 % 60)
        (if t.nanos < 1000000000 then (t.seconds % 86400).toNat % 60 else 60) ++
        ((fractionText (t.nanos % 1000000000)).toList ++ ['Z'])) := by
  have hhyphen : "-".toList = ['-'] := rfl
  have hdivider : "T".toList = ['T'] := rfl
  have hcolon : ":".toList = [':'] := rfl
  have hzone : "Z".toList = ['Z'] := rfl
  simp only [toText, writtenDate, writtenClock, String.toList_append, hhyphen, hdivider, hcolon,
    hzone, List.append_assoc, List.cons_append, List.nil_append]

lemma ofParts?_self (t : Timestamp) : ofParts? t.seconds t.nanos = some t := by
  unfold ofParts?
  rw [dif_pos t.valid]

/-- What is written of a date and a time of day is read back. -/
lemma ofText?_written {date : Date} {hour minute second nanos : ℕ} {text : String} {t : Timestamp}
    (htext : text.toList = writtenDate date ++ 'T' ::
      (writtenClock hour minute second ++ ((fractionText nanos).toList ++ ['Z'])))
    (hdate : date.isValid = true) (hhour : hour ≤ 23) (hminute : minute ≤ 59)
    (hsecond : second ≤ 60) (hnanos : nanos < 1000000000)
    (hseconds : t.seconds = date.toDays * 86400 + (hour * 3600 + minute * 60 + min second 59 : ℕ))
    (hfraction : t.nanos = if second = 60 then nanos + 1000000000 else nanos) :
    Timestamp.ofText? text = some t := by
  have hdivider : ∀ rest, takeDivider ('T' :: rest) = some rest := fun _ => rfl
  have hoffset : takeOffset (trimFront ['Z']) = some (0, []) := by decide
  unfold Timestamp.ofText?
  rw [htext]
  simp only [takeDate_writtenDate hdate, hdivider, takeClock_writtenClock hhour hminute hsecond,
    takeFraction_fractionText hnanos, hoffset, Option.bind_eq_bind, Option.bind_some]
  rw [if_neg, ← hseconds, ← hfraction, ofParts?_self, Option.bind_some, Int.sub_zero,
    ofParts?_self]
  simp [trimFront, hdate]
  omega

/-- The text of a timestamp is read back, leap seconds and years of any length included. -/
theorem timestamp_ofText?_toText (t : Timestamp) : Timestamp.ofText? t.toText = some t := by
  have htext := toList_toText t
  have hsplit : t.seconds = t.seconds / 86400 * 86400 + ((t.seconds % 86400).toNat : ℤ) := by omega
  have hday : (t.seconds % 86400).toNat < 86400 := by omega
  have hleap : t.nanos < 1000000000 ∨
      t.nanos < 2000000000 ∧ (t.seconds % 86400).toNat % 60 = 59 := by
    have hvalid := t.valid.2.2
    omega
  generalize (t.seconds % 86400).toNat = ofDay at htext hsplit hday hleap
  refine ofText?_written htext (isValid_ofDays _) ?_ ?_ ?_ (Nat.mod_lt _ (by decide)) ?_ ?_
  · omega
  · omega
  · split_ifs <;> omega
  · rw [toDays_ofDays]
    split_ifs <;> omega
  · split_ifs <;> omega

end Times

/-! ### Run identifiers -/

section Identifiers

variable {n : ℕ}

/-- The values of the hexadecimal digits of a number. -/
lemma exists_toDigits_eq_map (n : ℕ) : ∃ vs : List ℕ, Nat.toDigits 16 n = vs.map Nat.digitChar ∧
    (∀ v ∈ vs, v < 16) ∧ vs.foldl (fun n d => n * 16 + d) 0 = n := by
  induction n using Nat.strong_induction_on with
  | _ n ih =>
    obtain hlt | hle := Nat.lt_or_ge n 16
    · refine ⟨[n], Nat.toDigits_of_lt_base hlt, ?_, ?_⟩
      · intro v hv
        rwa [List.mem_singleton.1 hv]
      · simp
    · obtain ⟨vs, hdigits, hvs, hvalue⟩ := ih (n / 16) (by omega)
      refine ⟨vs ++ [n % 16], ?_, ?_, ?_⟩
      · rw [Nat.toDigits_of_base_le (by decide) hle, hdigits, List.map_append]
        rfl
      · intro v hv
        obtain hv | hv := List.mem_append.1 hv
        · exact hvs v hv
        · rw [List.mem_singleton.1 hv]
          exact Nat.mod_lt n (by decide)
      · rw [List.foldl_append, hvalue, List.foldl_cons, List.foldl_nil]
        omega

lemma exists_hexDigits_eq_map (h : n < 16 ^ 32) : ∃ vs : List ℕ,
    RunId.hexDigits n = vs.map Nat.digitChar ∧ vs.length = 32 ∧ (∀ v ∈ vs, v < 16) ∧
      vs.foldl (fun n d => n * 16 + d) 0 = n := by
  obtain ⟨vs, hdigits, hvs, hvalue⟩ := exists_toDigits_eq_map n
  have hlength : vs.length ≤ 32 := by
    rw [← List.length_map (f := Nat.digitChar), ← hdigits]
    exact (Nat.length_toDigits_le_iff (by decide) (by decide)).2 h
  have hzeros : ∀ k, (List.replicate k 0).foldl (fun n d => n * 16 + d) 0 = 0 := by
    intro k
    induction k with
    | zero => rfl
    | succ k ih => rw [List.replicate_succ, List.foldl_cons, Nat.zero_mul, ih]
  refine ⟨List.replicate (32 - vs.length) 0 ++ vs, ?_, ?_, ?_, ?_⟩
  · unfold RunId.hexDigits
    rw [hdigits, List.map_append, List.map_replicate]
    dsimp only
    rw [List.length_map]
    rfl
  · rw [List.length_append, List.length_replicate]
    omega
  · intro v hv
    obtain hv | hv := List.mem_append.1 hv
    · rw [List.eq_of_mem_replicate hv]
      decide
    · exact hvs v hv
  · rw [List.foldl_append, hzeros, hvalue]

lemma mapM_hexValue? {vs : List ℕ} (h : ∀ v ∈ vs, v < 16) :
    (vs.map Nat.digitChar).mapM RunId.hexValue? = some vs := by
  have hdigit : ∀ v < 16, RunId.hexValue? (Nat.digitChar v) = some v := by decide
  induction vs with
  | nil => rfl
  | cons v vs ih =>
    rw [List.map_cons, List.mapM_cons, hdigit v (h v (by simp)),
      ih fun w hw => h w (List.mem_cons_of_mem v hw)]
    rfl

/-- Digits are taken out of their groups as they were put in. -/
lemma ungroup?_joinGroups (sizes : List ℕ) (ds : List Char) (h : ds.length = sizes.sum) :
    RunId.ungroup? sizes (RunId.joinGroups sizes ds) = some ds := by
  fun_induction RunId.joinGroups sizes ds with
  | case1 ds => simp_all [RunId.ungroup?]
  | case2 size ds => simp_all [RunId.ungroup?]
  | case3 size sizes ds hmore ih =>
    have hsize : (ds.take size).length = size := by
      rw [List.length_take, h, List.sum_cons]
      omega
    have hrest : (ds.drop size).length = sizes.sum := by
      rw [List.length_drop, h, List.sum_cons]
      omega
    have hread : ∀ l, RunId.ungroup? (size :: sizes) (ds.take size ++ '-' :: l) =
        (RunId.ungroup? sizes l).map (ds.take size ++ ·) := by
      intro l
      have hdrop : (ds.take size ++ '-' :: l).drop size = '-' :: l := List.drop_left' hsize
      have htake : (ds.take size ++ '-' :: l).take size = ds.take size := List.take_left' hsize
      cases sizes with
      | nil => exact (hmore rfl).elim
      | cons size' sizes => simp only [RunId.ungroup?, hdrop, htake]
    rw [hread, ih hrest, Option.map_some, List.take_append_drop]

lemma length_joinGroups (sizes : List ℕ) (ds : List Char) (hne : sizes ≠ [])
    (h : ds.length = sizes.sum) :
    (RunId.joinGroups sizes ds).length + 1 = ds.length + sizes.length := by
  fun_induction RunId.joinGroups sizes ds with
  | case1 ds => exact (hne rfl).elim
  | case2 size ds => rfl
  | case3 size sizes ds hmore ih =>
    have hrest : (ds.drop size).length = sizes.sum := by
      rw [List.length_drop, h, List.sum_cons]
      omega
    have hlength := ih hmore hrest
    rw [List.sum_cons] at h
    simp only [List.length_append, List.length_take, List.length_cons]
    omega

/-- The text of a run identifier is read back. -/
theorem runId_ofText?_toText (id : RunId) : RunId.ofText? id.toText = some id := by
  have hbits : id.bits.toNat < 16 ^ 32 := id.bits.isLt.trans_eq (by decide)
  obtain ⟨vs, hdigits, hlength, hvs, hvalue⟩ := exists_hexDigits_eq_map hbits
  have hsum : (vs.map Nat.digitChar).length = RunId.groups.sum := by
    rw [List.length_map, hlength]
    rfl
  have htext : id.toText.toList = RunId.joinGroups RunId.groups (vs.map Nat.digitChar) := by
    unfold RunId.toText
    rw [String.toList_ofList, hdigits]
  have hread : RunId.ofGrouped? id.toText.toList = some id := by
    unfold RunId.ofGrouped? RunId.ofDigits?
    rw [htext, ungroup?_joinGroups _ _ hsum, Option.bind_some, mapM_hexValue? hvs]
    simp [hlength, hvalue]
  have hlong : id.toText.toList.length = 36 := by
    have hlong := length_joinGroups RunId.groups _ (by decide) hsum
    rw [List.length_map, hlength, ← htext] at hlong
    exact Nat.succ.inj hlong
  -- A digit stands first, so that the text is no name with a scheme.
  have hplain : "urn:uuid:".toList.isPrefixOf id.toText.toList = false := by
    obtain ⟨v, vs, rfl⟩ : ∃ v vs', vs = v :: vs' := List.exists_cons_of_length_eq_add_one hlength
    have hdigit : ∀ v < 16, ('u' == Nat.digitChar v) = false := by decide
    have hfirst : id.toText.toList = Nat.digitChar v :: id.toText.toList.tail := by
      rw [htext]
      rfl
    have hscheme : "urn:uuid:".toList = 'u' :: "rn:uuid:".toList := rfl
    rw [hscheme, hfirst, List.isPrefixOf_cons_cons, hdigit v (hvs v (by simp)), Bool.false_and]
  unfold RunId.ofText?
  simp only [hlong, hplain]
  simpa using hread

end Identifiers

end LoadTest.Proofs
