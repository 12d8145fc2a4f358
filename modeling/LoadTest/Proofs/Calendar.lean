import LoadTest.Time.Calendar
import Mathlib

/-!
# The calendar, backwards

The date of a day is a valid one, and the day of that date is the day again. An era of 400 years is
four centuries, a century is 25 spans of four years, and of these each ends with a leap day except
the last span of the first three centuries.
-/

namespace LoadTest.Proofs

/-- A day of an era, by its century, its span of four years and the day of that span. -/
structure EraParts (day b k s : ℤ) : Prop where
  sum : day = 36524 * b + 1461 * k + s
  century : 0 ≤ b ∧ b ≤ 3
  span : 0 ≤ k ∧ k ≤ 24
  within : 0 ≤ s ∧ s ≤ 1460
  last : k = 24 → s = 1460 → b = 3

lemma exists_eraParts {day : ℤ} (h : 0 ≤ day ∧ day < 146097) : ∃ b k s, EraParts day b k s := by
  obtain ⟨b, hb⟩ : ∃ b, b = min (day / 36524) 3 := ⟨_, rfl⟩
  obtain ⟨r, hr⟩ : ∃ r, r = day - 36524 * b := ⟨_, rfl⟩
  have hrange : 0 ≤ r ∧ (r < 36524 ∨ b = 3 ∧ r = 36524) := by omega
  exact ⟨b, r / 1461, r % 1461, by omega, by omega, by omega, by omega, by omega⟩

section Parts

variable {day b k s : ℤ}

/-- The year of an era as the calendar computes it. -/
lemma yearOfEra_eq (h : EraParts day b k s) :
    (day - day / 1460 + day / 36524 - day / 146096) / 365 = 100 * b + 4 * k + min (s / 365) 3 := by
  obtain ⟨hsum, hb, hk, hs, hlast⟩ := h
  -- The three corrections together take off one day for each leap day before.
  have hspans : day / 1460 = 25 * b + k + (24 * b + k + s) / 1460 := by omega
  have hcenturies : day / 36524 - day / 146096 = b := by
    by_cases hend : k = 24 ∧ s = 1460
    · have hday : day = 146096 := by omega
      rw [hday, hlast hend.1 hend.2]
      rfl
    · have hcentury : day / 36524 = b := by omega
      have hera : day / 146096 = 0 := by omega
      omega
  have hround : (24 * b + k + s) / 1460 = 0 ∨ (24 * b + k + s) / 1460 = 1 := by omega
  omega

/-- The day of a year that began in March; only a leap year has a day 365. -/
lemma dayOfYear_eq (h : EraParts day b k s) {y : ℤ} (hy : y = 100 * b + 4 * k + min (s / 365) 3) :
    day - (365 * y + y / 4 - y / 100) = s - 365 * min (s / 365) 3 := by
  obtain ⟨hsum, hb, hk, hs, hlast⟩ := h
  have hfours : y / 4 = 25 * b + k := by omega
  have hhundreds : y / 100 = b := by omega
  omega

end Parts

/-- The last year of a span of four has one day more. -/
lemma exists_yearOfSpan {s : ℤ} (h : 0 ≤ s ∧ s ≤ 1460) :
    ∃ t, t = min (s / 365) 3 ∧ 0 ≤ t ∧ t ≤ 3 ∧ 0 ≤ s - 365 * t ∧ s - 365 * t ≤ 365 ∧
      (s - 365 * t = 365 → t = 3 ∧ s = 1460) :=
  ⟨_, rfl, by omega, by omega, by omega, by omega, by omega⟩

lemma leap_of_last {b k : ℤ} (hk : 0 ≤ k ∧ k ≤ 24) (hlast : k = 24 → b = 3) :
    (100 * b + 4 * k + 3 + 1) % 4 = 0 ∧
      ((100 * b + 4 * k + 3 + 1) % 100 ≠ 0 ∨ (100 * b + 4 * k + 3 + 1) % 400 = 0) := by
  by_cases hend : k = 24
  · rw [hend, hlast hend]
    decide
  · exact ⟨by omega, .inl (by omega)⟩

/-- Each day of an era lies in one of its 400 years. -/
lemma exists_yearDay {day : ℤ} (h : 0 ≤ day ∧ day < 146097) :
    ∃ y d : ℤ, (day - day / 1460 + day / 36524 - day / 146096) / 365 = y ∧
      day - (365 * y + y / 4 - y / 100) = d ∧ 0 ≤ y ∧ y < 400 ∧ 0 ≤ d ∧ d ≤ 365 ∧
      (d = 365 → (y + 1) % 4 = 0 ∧ ((y + 1) % 100 ≠ 0 ∨ (y + 1) % 400 = 0)) := by
  obtain ⟨b, k, s, hparts⟩ := exists_eraParts h
  obtain ⟨t, ht, hfirst, hfinal, hlow, hhigh, hleap⟩ := exists_yearOfSpan hparts.within
  obtain ⟨y, hy⟩ : ∃ y, y = 100 * b + 4 * k + t := ⟨_, rfl⟩
  have hrange : 0 ≤ y ∧ y < 400 := by
    obtain ⟨-, hb, hk, -, -⟩ := hparts
    clear ht hlow hhigh hleap
    omega
  refine ⟨y, s - 365 * t, ?_, ?_, hrange.1, hrange.2, hlow, hhigh, fun hday => ?_⟩
  · rw [hy, ht]
    exact yearOfEra_eq hparts
  · rw [ht]
    exact dayOfYear_eq hparts (hy.trans (by rw [ht]))
  · obtain ⟨rfl, hs⟩ := hleap hday
    rw [hy]
    exact leap_of_last hparts.span fun hk => hparts.last hk hs

/-- Months of 31, 30, 31, 30 and 31 days follow each other, from March on. -/
lemma monthDay {d : ℤ} (h : 0 ≤ d ∧ d ≤ 365) :
    ∃ m : ℤ, (5 * d + 2) / 153 = m ∧ 0 ≤ m ∧ m ≤ 11 ∧ (153 * m + 2) / 5 ≤ d ∧
      d - (153 * m + 2) / 5 + 1 ≤ 31 ∧
      (m = 1 ∨ m = 3 ∨ m = 6 ∨ m = 8 → d - (153 * m + 2) / 5 + 1 ≤ 30) ∧
      (m = 11 → d - (153 * m + 2) / 5 + 1 ≤ 29 ∧ (d - (153 * m + 2) / 5 + 1 = 29 → d = 365)) := by
  exact ⟨_, rfl, by omega, by omega, by omega, by omega, by omega, by omega⟩

/-- A day by its era, the year `y` of that era and the day `d` of that year, in month `m`, both
counted from March. -/
structure DayParts (days era y d m : ℤ) : Prop where
  sum : days = era * 146097 + (365 * y + y / 4 - y / 100 + d) - 719468
  year : 0 ≤ y ∧ y < 400
  month : 0 ≤ m ∧ m ≤ 11
  day : 1 ≤ d - (153 * m + 2) / 5 + 1 ∧ d - (153 * m + 2) / 5 + 1 ≤ 31
  short : m = 1 ∨ m = 3 ∨ m = 6 ∨ m = 8 → d - (153 * m + 2) / 5 + 1 ≤ 30
  shortest : m = 11 → d - (153 * m + 2) / 5 + 1 ≤ 28 ∨ d - (153 * m + 2) / 5 + 1 = 29 ∧
    (y + 1) % 4 = 0 ∧ ((y + 1) % 100 ≠ 0 ∨ (y + 1) % 400 = 0)
  date : Date.ofDays days =
    { year := if m < 10 then y + era * 400 else y + era * 400 + 1
      month := (if m < 10 then m + 3 else m - 9).toNat
      day := (d - (153 * m + 2) / 5 + 1).toNat }

lemma exists_dayParts (days : ℤ) : ∃ era y d m, DayParts days era y d m := by
  obtain ⟨day, hday⟩ : ∃ day, day = (days + 719468) % 146097 := ⟨_, rfl⟩
  have hrange : 0 ≤ day ∧ day < 146097 := by omega
  obtain ⟨y, d, hy, hd, hyear, hyear', hlow, hhigh, hleap⟩ := exists_yearDay hrange
  obtain ⟨m, hm, hfirst, hlast, hstart, hlong, hshort, hshortest⟩ := monthDay ⟨hlow, hhigh⟩
  refine ⟨(days + 719468) / 146097, y, d, m, ?_, ⟨hyear, hyear'⟩, ⟨hfirst, hlast⟩, ?_, hshort, ?_, ?_⟩
  · clear hm hy hleap hshort hshortest hstart hlong
    omega
  · clear hm hy hd hleap hshort hshortest
    omega
  · intro hend
    obtain ⟨hle, hfinal⟩ := hshortest hend
    by_cases hday : d - (153 * m + 2) / 5 + 1 = 29
    · exact .inr ⟨hday, hleap (hfinal hday)⟩
    · exact .inl (by clear hm hy hd hleap hshort hshortest; omega)
  · simp only [Date.ofDays, ← hday, hy, hd, hm]
    by_cases hwinter : m < 10
    · simp only [if_pos hwinter, if_neg (show ¬m + 3 ≤ 2 by omega)]
    · simp only [if_neg hwinter, if_pos (show m - 9 ≤ 2 by omega)]

theorem toDays_ofDays (days : ℤ) : (Date.ofDays days).toDays = days := by
  obtain ⟨era, y, d, m, hsum, hyear, hmonth, hday, -, -, hdate⟩ := exists_dayParts days
  have hera : (y + era * 400) / 400 = era := by omega
  have hyears : (y + era * 400) % 400 = y := by omega
  have hdays : ((d - (153 * m + 2) / 5 + 1).toNat : ℤ) = d - (153 * m + 2) / 5 + 1 :=
    Int.toNat_of_nonneg (by omega)
  rw [hdate, hsum]
  clear hdate hsum
  by_cases hwinter : m < 10
  · have hcount : ((m + 3).toNat : ℤ) = m + 3 := Int.toNat_of_nonneg (by omega)
    have hlate : ¬(m + 3).toNat ≤ 2 := by omega
    have hindex : (m + 3 + 9) % 12 = m := by omega
    simp only [Date.toDays, if_pos hwinter, if_neg hlate, hcount, hindex, hera, hyears, hdays]
    omega
  · have hcount : ((m - 9).toNat : ℤ) = m - 9 := Int.toNat_of_nonneg (by omega)
    have hearly : (m - 9).toNat ≤ 2 := by omega
    have hindex : (m - 9 + 9) % 12 = m := by omega
    simp only [Date.toDays, if_neg hwinter, if_pos hearly, hcount, hindex, add_sub_cancel_right, hera,
      hyears, hdays]
    omega

lemma isLeapYear_add (y era : ℤ) (h : y % 4 = 0 ∧ (y % 100 ≠ 0 ∨ y % 400 = 0)) :
    Date.isLeapYear (y + era * 400) = true := by
  have hfour : (y + era * 400) % 4 = y % 4 := by omega
  have hhundred : (y + era * 400) % 100 = y % 100 := by omega
  have hera : (y + era * 400) % 400 = y % 400 := by omega
  unfold Date.isLeapYear
  rw [hfour, hhundred, hera]
  simpa using h

theorem isValid_ofDays (days : ℤ) : (Date.ofDays days).isValid = true := by
  obtain ⟨era, y, d, m, -, -, hmonth, hday, hshort, hshortest, hdate⟩ := exists_dayParts days
  obtain ⟨n, hn⟩ : ∃ n, n = d - (153 * m + 2) / 5 + 1 := ⟨_, rfl⟩
  rw [hdate]
  rw [← hn] at hday hshort hshortest ⊢
  clear hdate hn
  obtain ⟨c, hc⟩ : ∃ c, c = (if m < 10 then m + 3 else m - 9).toNat := ⟨_, rfl⟩
  rw [← hc]
  have hdays : n.toNat ≤
      Date.daysInMonth (if m < 10 then y + era * 400 else y + era * 400 + 1) c := by
    unfold Date.daysInMonth
    by_cases hfebruary : m = 11
    · have hyear : (if m < 10 then y + era * 400 else y + era * 400 + 1) = y + 1 + era * 400 := by
        omega
      rw [if_pos (by omega), hyear]
      obtain hle | ⟨hlast, hleap⟩ := hshortest hfebruary
      · split
        · omega
        · omega
      · rw [if_pos (isLeapYear_add (y + 1) era hleap)]
        omega
    · rw [if_neg (by omega)]
      split
      · next hthirty =>
        simp only [Bool.or_eq_true, decide_eq_true_eq] at hthirty
        have hle := hshort (by omega)
        omega
      · omega
  unfold Date.isValid
  simp only [Bool.and_eq_true, decide_eq_true_eq]
  exact ⟨⟨⟨by omega, by omega⟩, by omega⟩, hdays⟩

end LoadTest.Proofs
