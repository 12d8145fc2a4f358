import LoadTest.Number.Literal
import LoadTest.Proofs.Numerals
import LoadTest.Text.Blank

/-!
# Values in plain text

What a text says as a count, a float or a truth value is told by its grammar, and a float by the
number that its numeral stands for. The readers accept exactly the texts that say a value, and of
one that says none they tell the first fault from the left. Trimming takes the white space off both
ends of a text and nothing else.
-/

namespace LoadTest.Proofs

/-! ### Trimming -/

section Trimming

variable {text core : String}

/-- The code points with the property White_Space. -/
def whiteSpace : List ℕ :=
  [0x09, 0x0a, 0x0b, 0x0c, 0x0d, 0x20, 0x85, 0xa0, 0x1680, 0x2000, 0x2001, 0x2002, 0x2003, 0x2004,
   0x2005, 0x2006, 0x2007, 0x2008, 0x2009, 0x200a, 0x2028, 0x2029, 0x202f, 0x205f, 0x3000]

/-- The core of a text stands between white space and neither begins nor ends with it. -/
structure Trimmed (text core : String) : Prop where
  between : ∃ front back, text.toList = front ++ (core.toList ++ back) ∧
    ∀ c ∈ front ++ back, c.toNat ∈ whiteSpace
  first : ∀ c, core.toList.head? = some c → c.toNat ∉ whiteSpace
  last : ∀ c, core.toList.getLast? = some c → c.toNat ∉ whiteSpace

lemma isBlank_iff (c : Char) : isBlank c = true ↔ c.toNat ∈ whiteSpace := by
  simp only [isBlank, blankRanges, whiteSpace, List.any_cons, List.any_nil, Bool.or_eq_true,
    Bool.and_eq_true, decide_eq_true_eq, Bool.false_eq_true, List.mem_cons, List.not_mem_nil,
    or_false]
  omega

lemma trimFront_blanks_append {front rest : List Char} (h : ∀ c ∈ front, isBlank c = true) :
    trimFront (front ++ rest) = trimFront rest :=
  List.dropWhile_append_of_pos h

lemma trimFront_of_head {cs : List Char} (h : ∀ c, cs.head? = some c → isBlank c = false) :
    trimFront cs = cs := by
  cases cs with
  | nil => rfl
  | cons c cs => exact trimFront_cons (h c rfl) cs

lemma trimmed_trim (text : String) : Trimmed text (trim text) := by
  have hfront := List.takeWhile_append_dropWhile (p := isBlank) (l := text.toList)
  have hback := List.takeWhile_append_dropWhile (p := isBlank) (l := (trimFront text.toList).reverse)
  have hcore : (trim text).toList = (trimFront (trimFront text.toList).reverse).reverse :=
    String.toList_ofList
  have hrest : trimFront text.toList = (trim text).toList ++
      ((trimFront text.toList).reverse.takeWhile isBlank).reverse := by
    rw [hcore, ← List.reverse_append]
    exact List.reverse_eq_iff.1 hback.symm
  have hblank (cs : List Char) : ∀ c ∈ cs.takeWhile isBlank, c.toNat ∈ whiteSpace :=
    fun c hc => (isBlank_iff c).1 (List.mem_takeWhile_imp hc)
  have hhead (cs : List Char) (c : Char) (hc : (trimFront cs).head? = some c) :
      c.toNat ∉ whiteSpace := by
    have hnot := List.head?_dropWhile_not isBlank cs
    unfold trimFront at hc
    rw [hc] at hnot
    rw [← isBlank_iff]
    simpa using hnot
  constructor
  · refine ⟨_, _, hfront.symm.trans (congrArg _ hrest), ?_⟩
    intro c hc
    obtain hc | hc := List.mem_append.1 hc
    · exact hblank _ c hc
    · exact hblank _ c (List.mem_reverse.1 hc)
  · intro c hc
    apply hhead text.toList c
    rw [hrest, List.head?_append, hc]
    rfl
  · intro c hc
    rw [hcore, List.getLast?_reverse] at hc
    exact hhead _ c hc

/-- Trimming gives the only core that a text has. -/
lemma trimmed_iff : Trimmed text core ↔ core = trim text := by
  constructor
  · intro h
    obtain ⟨front, back, htext, hblank⟩ := h.between
    have hfront : ∀ c ∈ front, isBlank c = true := fun c hc =>
      (isBlank_iff c).2 (hblank c (List.mem_append_left back hc))
    have hback : ∀ c ∈ back, isBlank c = true := fun c hc =>
      (isBlank_iff c).2 (hblank c (List.mem_append_right front hc))
    have hnot (c : Char) (hc : c.toNat ∉ whiteSpace) : isBlank c = false :=
      Bool.eq_false_iff.2 fun hblank => hc ((isBlank_iff c).1 hblank)
    have hlast : trimFront (back.reverse ++ core.toList.reverse) = core.toList.reverse := by
      rw [trimFront_blanks_append fun c hc => hback c (List.mem_reverse.1 hc)]
      exact trimFront_of_head fun c hc => hnot c (h.last c (List.head?_reverse ▸ hc))
    have hkept : (trimFront (core.toList ++ back)).reverse = back.reverse ++ core.toList.reverse ∨
        core.toList = [] := by
      by_cases hempty : core.toList = []
      · exact .inr hempty
      · rw [trimFront_of_head fun c hc => hnot c (h.first c ?_), List.reverse_append]
        · exact .inl rfl
        · rwa [List.head?_append_of_ne_nil _ hempty] at hc
    have htrimmed : trimFront (trimFront (core.toList ++ back)).reverse = core.toList.reverse := by
      obtain hkept | hempty := hkept
      · rw [hkept, hlast]
      · have hnone : trimFront back = [] := by
          rw [← List.append_nil back, trimFront_blanks_append hback]
          rfl
        rw [hempty, List.nil_append, hnone]
        rfl
    unfold trim
    rw [htext, trimFront_blanks_append hfront, htrimmed, List.reverse_reverse, String.ofList_toList]
  · rintro rfl
    exact trimmed_trim text

end Trimming

/-! ### Counts -/

section Counts

variable {text : String} {n m : ℕ} {c : Char} {cs : List Char} {flaw : LiteralFlaw}

/-- Decimal digits of a number below `2 ^ 64`, which a plus sign may precede. -/
def SaysCount (text : String) (n : ℕ) : Prop :=
  ∃ digits, digits ≠ [] ∧ (∀ c ∈ digits, c.isDigit = true) ∧
    (text.toList = digits ∨ text.toList = '+' :: digits) ∧
    n = Nat.ofDigitChars 10 digits 0 ∧ n < 2 ^ 64

/-- The first fault in the digits that follow those of `n`: a character that is none, or a digit
that leads beyond the counts. -/
def FirstFault (n : ℕ) (cs : List Char) (flaw : LiteralFlaw) : Prop :=
  ∃ digits c rest, cs = digits ++ c :: rest ∧ (∀ d ∈ digits, d.isDigit = true) ∧
    Nat.ofDigitChars 10 digits n < 2 ^ 64 ∧
    (c.isDigit = false ∧ flaw = .invalidDigit ∨
      c.isDigit = true ∧ 2 ^ 64 ≤ Nat.ofDigitChars 10 (digits ++ [c]) n ∧ flaw = .tooLargeCount)

/-- What is wrong with a text that says no count. -/
inductive CountFlaw (text : String) : LiteralFlaw → Prop where
  | empty : text = "" → CountFlaw text .emptyCount
  | signOnly : text = "+" → CountFlaw text .invalidDigit
  | signed {cs : List Char} {flaw : LiteralFlaw} : text.toList = '+' :: cs →
    FirstFault 0 cs flaw → CountFlaw text flaw
  | unsigned {flaw : LiteralFlaw} : text.toList.head? ≠ some '+' → FirstFault 0 text.toList flaw →
      CountFlaw text flaw

lemma le_ofDigitChars (cs : List Char) (n : ℕ) : n ≤ Nat.ofDigitChars 10 cs n := by
  rw [Nat.ofDigitChars_eq_ofDigitChars_zero]
  have hpos : 1 ≤ 10 ^ cs.length := Nat.one_le_pow _ _ (by decide)
  have hmul := Nat.mul_le_mul_right n hpos
  omega

/-- A number that has outgrown its range on the way stays outside it, whatever digits follow. -/
lemma countFrom_eq_ok (hn : n < 2 ^ 64) :
    countFrom n cs = .ok m ↔
      (∀ c ∈ cs, c.isDigit = true) ∧ m = Nat.ofDigitChars 10 cs n ∧ m < 2 ^ 64 := by
  induction cs generalizing n with
  | nil =>
    rw [countFrom, Nat.ofDigitChars_nil, Except.ok.injEq]
    constructor
    · rintro rfl
      exact ⟨by simp, rfl, hn⟩
    · rintro ⟨-, rfl, -⟩
      rfl
  | cons c cs ih =>
    have hlimit : wordLimit = 2 ^ 64 := rfl
    rw [countFrom, hlimit, Nat.ofDigitChars_cons, List.forall_mem_cons, Nat.mul_comm 10 n]
    by_cases hdigit : c.isDigit = true
    · by_cases hnext : n * 10 + (c.toNat - '0'.toNat) < 2 ^ 64
      · simp only [hdigit, hnext, Bool.not_true, Bool.false_eq_true, if_false, if_true, true_and,
          ih hnext]
      · have hgrown := le_ofDigitChars cs (n * 10 + (c.toNat - '0'.toNat))
        simp only [hdigit, hnext, Bool.not_true, Bool.false_eq_true, if_false, reduceCtorEq,
          false_iff]
        rintro ⟨-, rfl, hm⟩
        omega
    · simp [hdigit]

lemma firstFault_cons (hn : n < 2 ^ 64) :
    FirstFault n (c :: cs) flaw ↔
      c.isDigit = false ∧ flaw = .invalidDigit ∨
      c.isDigit = true ∧ 2 ^ 64 ≤ 10 * n + (c.toNat - '0'.toNat) ∧ flaw = .tooLargeCount ∨
      c.isDigit = true ∧ 10 * n + (c.toNat - '0'.toNat) < 2 ^ 64 ∧
        FirstFault (10 * n + (c.toNat - '0'.toNat)) cs flaw := by
  constructor
  · rintro ⟨_ | ⟨d, digits⟩, c', rest, hcs, hdigits, hlt, hfault⟩
    · obtain ⟨rfl, rfl⟩ := List.cons.inj hcs
      obtain hfault | ⟨hdigit, hlarge, hflaw⟩ := hfault
      · exact .inl hfault
      · exact .inr (.inl ⟨hdigit, hlarge, hflaw⟩)
    · obtain ⟨rfl, rfl⟩ := List.cons.inj hcs
      obtain ⟨hdigit, hdigits⟩ := List.forall_mem_cons.1 hdigits
      rw [Nat.ofDigitChars_cons] at hlt
      have hgrown := le_ofDigitChars digits (10 * n + (c.toNat - '0'.toNat))
      exact .inr (.inr ⟨hdigit, hgrown.trans_lt hlt, digits, c', rest, rfl, hdigits, hlt, hfault⟩)
  · rintro (hfault | ⟨hdigit, hlarge, hflaw⟩ | ⟨hdigit, -, digits, c', rest, rfl, hdigits, hrest⟩)
    · exact ⟨[], c, cs, rfl, by simp, hn, .inl hfault⟩
    · exact ⟨[], c, cs, rfl, by simp, hn, .inr ⟨hdigit, hlarge, hflaw⟩⟩
    · exact ⟨c :: digits, c', rest, rfl, List.forall_mem_cons.2 ⟨hdigit, hdigits⟩, hrest⟩

lemma countFrom_eq_error (hn : n < 2 ^ 64) :
    countFrom n cs = .error flaw ↔ FirstFault n cs flaw := by
  induction cs generalizing n with
  | nil => simp [countFrom, FirstFault]
  | cons c cs ih =>
    have hlimit : wordLimit = 2 ^ 64 := rfl
    rw [firstFault_cons hn, countFrom, hlimit, Nat.mul_comm n 10]
    by_cases hdigit : c.isDigit = true
    · by_cases hnext : 10 * n + (c.toNat - '0'.toNat) < 2 ^ 64
      · simp only [hdigit, hnext, ih hnext, Bool.not_true, Bool.false_eq_true, if_false, if_true,
          Nat.not_le.2 hnext, Bool.true_eq_false, false_and, and_false, false_or, true_and]
      · simp only [hdigit, hnext, Bool.not_true, Bool.false_eq_true, if_false, Nat.not_lt.1 hnext,
          false_and, and_false, false_or, true_and, or_false, Except.error.injEq,
          eq_comm]
    · simp [hdigit, eq_comm]

lemma parseCount_eq_ok : parseCount text = .ok n ↔ SaysCount text n := by
  unfold parseCount SaysCount
  split
  case h_1 htext => simp [htext]
  case h_2 rest htext =>
    -- The sign is no digit, so that it cannot be the first one.
    have hdigits (ds : List Char) (hds : ∀ c ∈ ds, c.isDigit = true)
        (h : text.toList = ds ∨ text.toList = '+' :: ds) : ds = rest := by
      rw [htext] at h
      obtain rfl | h := h
      · exact absurd (hds _ List.mem_cons_self) (by decide)
      · exact (List.cons_inj_right _).1 h.symm
    by_cases hrest : rest = []
    · rw [if_pos (List.isEmpty_iff.2 hrest)]
      constructor
      · intro h
        cases h
      · rintro ⟨ds, hne, hds, hsplit, -⟩
        exact absurd ((hdigits ds hds hsplit).trans hrest) hne
    · rw [if_neg (mt List.isEmpty_iff.1 hrest), countFrom_eq_ok (by decide)]
      constructor
      · rintro ⟨hds, hvalue⟩
        exact ⟨rest, hrest, hds, .inr htext, hvalue⟩
      · rintro ⟨ds, -, hds, hsplit, hvalue⟩
        obtain rfl := hdigits ds hds hsplit
        exact ⟨hds, hvalue⟩
  case h_3 hnil hsigned =>
    rw [countFrom_eq_ok (by decide)]
    constructor
    · rintro ⟨hds, hvalue⟩
      exact ⟨_, hnil, hds, .inl rfl, hvalue⟩
    · rintro ⟨ds, -, hds, rfl | htext, hvalue⟩
      · exact ⟨hds, hvalue⟩
      · exact absurd htext (hsigned ds)

lemma parseCount_eq_error : parseCount text = .error flaw ↔ CountFlaw text flaw := by
  unfold parseCount
  split
  case h_1 htext =>
    have hempty : text = "" := String.toList_eq_nil_iff.1 htext
    subst hempty
    constructor
    · rintro ⟨⟩
      exact .empty rfl
    · rintro (_ | h | ⟨h, -⟩ | ⟨-, _, _, _, h, -⟩)
      · rfl
      · exact absurd h (by decide)
      · cases h
      · simp at h
  case h_2 rest htext =>
    by_cases hrest : rest = []
    · subst hrest
      have hsign : text = "+" := String.toList_inj.1 htext
      subst hsign
      constructor
      · rintro ⟨⟩
        exact .signOnly rfl
      · rintro (h | _ | ⟨h, _, _, _, hcs, -⟩ | ⟨h, -⟩)
        · exact absurd h (by decide)
        · rfl
        · obtain rfl := (List.cons.inj h).2
          simp at hcs
        · exact absurd rfl h
    · rw [if_neg (mt List.isEmpty_iff.1 hrest), countFrom_eq_error (by decide)]
      constructor
      · exact .signed htext
      · rintro (rfl | rfl | ⟨h, hfault⟩ | ⟨h, -⟩)
        · cases htext
        · exact absurd (List.cons.inj htext).2.symm hrest
        · rwa [(List.cons.inj (htext.symm.trans h)).2]
        · exact absurd (by rw [htext]; rfl) h
  case h_3 hnil hsigned =>
    rw [countFrom_eq_error (by decide)]
    constructor
    · refine .unsigned fun hhead => ?_
      obtain ⟨rest, hrest⟩ := List.head?_eq_some_iff.1 hhead
      exact hsigned rest hrest
    · rintro (rfl | rfl | ⟨h, -⟩ | ⟨-, hfault⟩)
      · exact absurd rfl hnil
      · exact absurd rfl (hsigned [])
      · exact absurd h (hsigned _)
      · exact hfault

end Counts

/-! ### Truth values -/

section Truths

variable {text : String} {flaw : LiteralFlaw}

def SaysTruth (text : String) (b : Bool) : Prop := text = if b then "true" else "false"

def TruthFlaw (text : String) (flaw : LiteralFlaw) : Prop :=
  (∀ b, ¬SaysTruth text b) ∧ flaw = .invalidTruth

lemma parseTruth_eq_ok {b : Bool} : parseTruth text = .ok b ↔ SaysTruth text b := by
  unfold parseTruth SaysTruth
  by_cases htrue : text = "true"
  · cases b <;> simp [htrue]
  · by_cases hfalse : text = "false" <;> cases b <;> simp [htrue, hfalse]

lemma parseTruth_eq_error : parseTruth text = .error flaw ↔ TruthFlaw text flaw := by
  unfold parseTruth TruthFlaw SaysTruth
  by_cases htrue : text = "true"
  · simp [htrue]
  · by_cases hfalse : text = "false" <;> simp [htrue, hfalse, eq_comm]

end Truths

/-! ### Floats -/

section Floats

variable {text : String} {cs power : List Char} {v : ℚ} {x y : Float} {e : ℤ} {negative : Bool}

/-- The float nearest to a number of no negative value; beyond the greatest it is infinity. -/
def IsNearest (v : ℚ) (x : Float) : Prop :=
  rank x = if v = 0 then 0 else min infinityRank (roundedRank v)

/-- A sign, and whether it is a minus. -/
inductive Sign : List Char → Bool → Prop where
  | absent : Sign [] false
  | plus : Sign ['+'] false
  | minus : Sign ['-'] true

/-- The power of ten at the end of a numeral. -/
inductive SaysPower : List Char → ℤ → Prop where
  | absent : SaysPower [] 0
  | written {mark : Char} {sign digits : List Char} {negative : Bool} :
      mark = 'e' ∨ mark = 'E' → Sign sign negative → digits ≠ [] →
      (∀ c ∈ digits, c.isDigit = true) →
      SaysPower (mark :: (sign ++ digits))
        (if negative then -Nat.ofDigitChars 10 digits 0 else Nat.ofDigitChars 10 digits 0)

/-- At least one digit, with at most one point before, between or after the digits, and then a
power of ten. -/
inductive SaysNumber : List Char → ℚ → Prop where
  | whole {digits power : List Char} {e : ℤ} : digits ≠ [] → (∀ c ∈ digits, c.isDigit = true) →
      SaysPower power e → SaysNumber (digits ++ power) (Nat.ofDigitChars 10 digits 0 * 10 ^ e)
  | point {whole fraction power : List Char} {e : ℤ} : whole ++ fraction ≠ [] →
      (∀ c ∈ whole ++ fraction, c.isDigit = true) → SaysPower power e →
      SaysNumber (whole ++ '.' :: (fraction ++ power))
        (Nat.ofDigitChars 10 (whole ++ fraction) 0 * 10 ^ (e - fraction.length))

/-- A float without its sign: a number, or a name in letters of either case. -/
inductive SaysMagnitude : List Char → Float → Prop where
  | number {cs : List Char} {v : ℚ} {x : Float} : SaysNumber cs v → IsNearest v x →
      SaysMagnitude cs x
  | infinite {cs : List Char} : String.ofList (cs.map Char.toLower) ∈ ["inf", "infinity"] →
      SaysMagnitude cs (1.0 / 0.0)
  | undefined {cs : List Char} : String.ofList (cs.map Char.toLower) = "nan" →
      SaysMagnitude cs (0.0 / 0.0)

def SaysFloat (text : String) (x : Float) : Prop :=
  ∃ sign negative cs y, text.toList = sign ++ cs ∧ Sign sign negative ∧ SaysMagnitude cs y ∧
    x = if negative then -y else y

/-- What is wrong with a text that says no float. -/
def FloatFlaw (text : String) (flaw : LiteralFlaw) : Prop :=
  (∀ x, ¬SaysFloat text x) ∧ flaw = if text = "" then .emptyFloat else .invalidFloat

lemma IsNearest.unique (hx : IsNearest v x) (hy : IsNearest v y) : x = y :=
  rank_injective (hx.trans hy.symm)

lemma isNearest_magnitude (d : Decimal) : IsNearest (d.coefficient * 10 ^ d.exponent) d.magnitude := by
  unfold IsNearest
  obtain hzero | hc := Nat.eq_zero_or_pos d.coefficient
  · have hread : d.magnitude = 0.0 := by
      unfold Decimal.magnitude
      dsimp only
      rw [if_pos hzero]
    rw [hread, hzero, Nat.cast_zero, zero_mul, if_pos rfl]
    decide
  · rw [rank_magnitude_eq hc, if_neg (by positivity)]

/-- A numeral is read as the float nearest to its number. -/
lemma isNearest_ofParts (whole fraction : List Char) (e : ℤ) :
    IsNearest (Nat.ofDigitChars 10 (whole ++ fraction) 0 * 10 ^ (e - fraction.length))
      (Decimal.ofParts false whole fraction e).toFloat := by
  rw [← ofDigits_eq]
  exact isNearest_magnitude (Decimal.ofParts false whole fraction e)

lemma splitSign_append {sign : List Char} (hsign : Sign sign negative)
    (hcs : cs.head? ≠ some '+' ∧ cs.head? ≠ some '-') :
    splitSign (sign ++ cs) = (negative, cs) := by
  cases hsign with
  | plus => rfl
  | minus => rfl
  | absent =>
    cases cs with
    | nil => rfl
    | cons c cs =>
      unfold splitSign
      split
      · exact absurd (congrArg List.head? ‹_›) hcs.2
      · exact absurd (congrArg List.head? ‹_›) hcs.1
      · rfl

lemma exists_sign (cs : List Char) :
    ∃ sign, Sign sign (splitSign cs).1 ∧ cs = sign ++ (splitSign cs).2 := by
  unfold splitSign
  split
  · exact ⟨_, .minus, rfl⟩
  · exact ⟨_, .plus, rfl⟩
  · exact ⟨_, .absent, rfl⟩

lemma powerOfTen?_mark {mark : Char} (hmark : mark = 'e' ∨ mark = 'E') (rest : List Char) :
    powerOfTen? (mark :: rest) =
      if (splitSign rest).2.isEmpty || !(splitSign rest).2.all Char.isDigit then none
      else some (if (splitSign rest).1 then -(Decimal.ofDigits (splitSign rest).2 : ℤ)
        else Decimal.ofDigits (splitSign rest).2) := by
  obtain rfl | rfl := hmark <;> rfl

lemma head?_digits_ne_sign {digits : List Char} (hdigits : ∀ c ∈ digits, c.isDigit = true) :
    digits.head? ≠ some '+' ∧ digits.head? ≠ some '-' := by
  constructor
  · intro hhead
    exact absurd (hdigits _ (List.mem_of_head? hhead)) (by decide)
  · intro hhead
    exact absurd (hdigits _ (List.mem_of_head? hhead)) (by decide)

lemma powerOfTen?_eq_some : powerOfTen? cs = some e ↔ SaysPower cs e := by
  constructor
  · intro h
    cases cs with
    | nil =>
      cases h
      exact .absent
    | cons mark rest =>
      have hmark : mark = 'e' ∨ mark = 'E' := by
        unfold powerOfTen? at h
        split at h
        case h_1 hnil => cases hnil
        case h_2 hcons => exact .inl (List.cons.inj hcons).1
        case h_3 hcons => exact .inr (List.cons.inj hcons).1
        case h_4 => cases h
      rw [powerOfTen?_mark hmark] at h
      split at h
      case isTrue => cases h
      next hdigits =>
      rw [Bool.or_eq_true, List.isEmpty_iff, Bool.not_eq_true', ← Bool.not_eq_true, List.all_eq_true,
        not_or, not_not] at hdigits
      obtain ⟨sign, hsign, hrest⟩ := exists_sign rest
      rw [ofDigits_eq] at h
      rw [hrest, ← Option.some.inj h]
      exact .written hmark hsign hdigits.1 hdigits.2
  · intro h
    cases h with
    | absent => rfl
    | written hmark hsign hne hdigits =>
      rw [powerOfTen?_mark hmark, splitSign_append hsign (head?_digits_ne_sign hdigits), ← ofDigits_eq,
        if_neg]
      simpa [hne] using hdigits

/-- What follows the digits of a numeral begins neither with a digit nor with a point. -/
lemma SaysPower.head (h : SaysPower cs e) {c : Char} (hc : cs.head? = some c) :
    c.isDigit = false ∧ c ≠ '.' := by
  cases h with
  | absent => cases hc
  | written hmark =>
    obtain rfl := Option.some.inj hc
    obtain rfl | rfl := hmark <;> decide

lemma splitNumeral_point {whole fraction : List Char}
    (hdigits : ∀ c ∈ whole ++ fraction, c.isDigit = true) (hpower : SaysPower power e) :
    splitNumeral (whole ++ '.' :: (fraction ++ power)) = (whole, fraction, power) := by
  have hwhole : ∀ c ∈ whole, c.isDigit = true := fun c hc => hdigits c (List.mem_append_left _ hc)
  have hfraction : ∀ c ∈ fraction, c.isDigit = true := fun c hc =>
    hdigits c (List.mem_append_right _ hc)
  have hstop : ∀ c, ('.' :: (fraction ++ power)).head? = some c → c.isDigit = false := by
    rintro _ ⟨⟩
    rfl
  have hrest : ∀ c, power.head? = some c → c.isDigit = false := fun c hc => (hpower.head hc).1
  simp only [splitNumeral, takeWhile_digits hwhole hstop, dropWhile_digits hwhole hstop,
    takeWhile_digits hfraction hrest, dropWhile_digits hfraction hrest]

lemma splitNumeral_whole {digits : List Char} (hdigits : ∀ c ∈ digits, c.isDigit = true)
    (hpower : SaysPower power e) : splitNumeral (digits ++ power) = (digits, [], power) := by
  have hrest : ∀ c, power.head? = some c → c.isDigit = false := fun c hc => (hpower.head hc).1
  unfold splitNumeral
  rw [takeWhile_digits hdigits hrest, dropWhile_digits hdigits hrest]
  dsimp only
  split
  · exact absurd rfl (hpower.head rfl).2
  · rfl

/-- The parts of a numeral make it up again, with the point if it has one. -/
lemma splitNumeral_parts (cs : List Char) : ∃ whole fraction rest,
    splitNumeral cs = (whole, fraction, rest) ∧ (∀ c ∈ whole ++ fraction, c.isDigit = true) ∧
      (cs = whole ++ rest ∧ fraction = [] ∨ cs = whole ++ '.' :: (fraction ++ rest)) := by
  have hdigits (l : List Char) : ∀ c ∈ l.takeWhile Char.isDigit, c.isDigit = true :=
    fun c hc => List.mem_takeWhile_imp hc
  have hcs := List.takeWhile_append_dropWhile (p := Char.isDigit) (l := cs)
  unfold splitNumeral
  split
  · next rest hpoint =>
    refine ⟨_, _, _, rfl, ?_, .inr ?_⟩
    · intro c hc
      obtain hc | hc := List.mem_append.1 hc
      · exact hdigits _ c hc
      · exact hdigits _ c hc
    · rw [List.takeWhile_append_dropWhile, ← hpoint, hcs]
  · refine ⟨_, _, _, rfl, ?_, .inl ⟨hcs.symm, rfl⟩⟩
    rw [List.append_nil]
    exact hdigits cs

lemma numeral?_eq_some : numeral? cs = some x ↔ ∃ v, SaysNumber cs v ∧ IsNearest v x := by
  unfold numeral?
  constructor
  · obtain ⟨whole, fraction, rest, hsplit, hdigits, hcs⟩ := splitNumeral_parts cs
    rw [hsplit]
    intro h
    dsimp only at h
    split_ifs at h with hempty
    obtain ⟨e, he, rfl⟩ := Option.map_eq_some_iff.1 h
    have hne : whole ++ fraction ≠ [] := by simpa using hempty
    refine ⟨_, ?_, isNearest_ofParts whole fraction e⟩
    obtain ⟨rfl, rfl⟩ | rfl := hcs
    · rw [List.append_nil] at hne hdigits ⊢
      rw [List.length_nil, Nat.cast_zero, sub_zero]
      exact .whole hne hdigits (powerOfTen?_eq_some.1 he)
    · exact .point hne hdigits (powerOfTen?_eq_some.1 he)
  · rintro ⟨v, hv, hx⟩
    cases hv with
    | @whole digits power e hne hdigits hpower =>
      have hnearest := isNearest_ofParts digits [] e
      rw [List.append_nil, List.length_nil, Nat.cast_zero, sub_zero] at hnearest
      rw [splitNumeral_whole hdigits hpower, hx.unique hnearest]
      simp [hne, powerOfTen?_eq_some.2 hpower]
    | @point whole fraction power e hne hdigits hpower =>
      rw [splitNumeral_point hdigits hpower, hx.unique (isNearest_ofParts whole fraction e)]
      have hparts : ¬(whole = [] ∧ fraction = []) := by simpa using hne
      simp [hparts, powerOfTen?_eq_some.2 hpower]

/-- A number has a digit, which no name has. -/
lemma SaysNumber.exists_digit (h : SaysNumber cs v) : ∃ c ∈ cs, c.isDigit = true := by
  cases h with
  | whole hne hdigits =>
    obtain ⟨c, hc⟩ := List.exists_mem_of_ne_nil _ hne
    exact ⟨c, List.mem_append_left _ hc, hdigits c hc⟩
  | point hne hdigits =>
    obtain ⟨c, hc⟩ := List.exists_mem_of_ne_nil _ hne
    refine ⟨c, ?_, hdigits c hc⟩
    simp only [List.mem_append, List.mem_cons] at hc ⊢
    tauto

lemma toLower_of_isDigit {c : Char} (h : c.isDigit = true) : c.toLower = c := by
  have hrange : 48 ≤ c.toNat ∧ c.toNat ≤ 57 := Char.isDigit_iff_toNat.1 h
  unfold Char.toLower
  rw [dif_neg]
  rintro ⟨hlow, -⟩
  have hupper : 65 ≤ c.toNat := UInt32.le_iff_toNat_le.1 hlow
  omega

/-- The floats that have names. -/
lemma lookup_namedFloats {name : String} : namedFloats.lookup name = some x ↔
    name ∈ ["inf", "infinity"] ∧ x = 1.0 / 0.0 ∨ name = "nan" ∧ x = 0.0 / 0.0 := by
  have hundefined : Float.ofBits 0x7ff8000000000000 = 0.0 / 0.0 := by decide +kernel
  have htable : namedFloats =
      [("inf", 1.0 / 0.0), ("infinity", 1.0 / 0.0), ("nan", 0.0 / 0.0)] := by
    rw [← hundefined]
    rfl
  rw [htable]
  generalize (1.0 / 0.0 : Float) = infinite
  generalize (0.0 / 0.0 : Float) = undefined
  simp only [lookup_cons_eq, List.lookup_nil, List.mem_cons, List.not_mem_nil, or_false]
  split_ifs <;> simp_all [eq_comm]

lemma letter_of_named {name : String} (h : namedFloats.lookup name = some x) {c : Char}
    (hc : c ∈ name.toList) : c.isDigit = false ∧ c ≠ '+' ∧ c ≠ '-' := by
  have hnames : ∀ name ∈ ["inf", "infinity", "nan"], ∀ c ∈ name.toList,
      c.isDigit = false ∧ c ≠ '+' ∧ c ≠ '-' := by simp
  refine hnames name ?_ c hc
  obtain ⟨hname, -⟩ | ⟨rfl, -⟩ := lookup_namedFloats.1 h
  · exact List.mem_append_left ["nan"] hname
  · decide

lemma SaysNumber.lookup_namedFloats (h : SaysNumber cs v) :
    namedFloats.lookup (String.ofList (cs.map Char.toLower)) = none := by
  obtain ⟨c, hc, hdigit⟩ := h.exists_digit
  have hmem : c ∈ (String.ofList (cs.map Char.toLower)).toList := by
    rw [String.toList_ofList]
    exact toLower_of_isDigit hdigit ▸ List.mem_map_of_mem hc
  refine Option.eq_none_iff_forall_ne_some.2 fun x hnamed => ?_
  rw [(letter_of_named hnamed hmem).1] at hdigit
  cases hdigit

lemma magnitude?_eq_some : magnitude? cs = some x ↔ SaysMagnitude cs x := by
  unfold magnitude?
  constructor
  · intro h
    split at h
    · next y hnamed =>
      cases h
      obtain ⟨hname, rfl⟩ | ⟨hname, rfl⟩ := lookup_namedFloats.1 hnamed
      · exact .infinite hname
      · exact .undefined hname
    · obtain ⟨v, hv, hx⟩ := numeral?_eq_some.1 h
      exact .number hv hx
  · intro h
    cases h with
    | number hv hx =>
      rw [hv.lookup_namedFloats]
      exact numeral?_eq_some.2 ⟨_, hv, hx⟩
    | infinite hname => rw [lookup_namedFloats.2 (.inl ⟨hname, rfl⟩)]
    | undefined hname => rw [lookup_namedFloats.2 (.inr ⟨hname, rfl⟩)]

/-- A float without its sign does not begin with one. -/
lemma SaysMagnitude.head?_ne_sign (h : SaysMagnitude cs x) :
    cs.head? ≠ some '+' ∧ cs.head? ≠ some '-' := by
  have hnamed (hlookup : namedFloats.lookup (String.ofList (cs.map Char.toLower)) = some x)
      {sign : Char} (hsign : sign.toLower = '+' ∨ sign.toLower = '-') : cs.head? ≠ some sign := by
    intro hhead
    have hmem : sign.toLower ∈ (String.ofList (cs.map Char.toLower)).toList := by
      rw [String.toList_ofList]
      exact List.mem_map_of_mem (List.mem_of_head? hhead)
    obtain ⟨-, hplus, hminus⟩ := letter_of_named hlookup hmem
    exact hsign.elim hplus hminus
  cases h with
  | infinite hname =>
    have hlookup := lookup_namedFloats.2 (.inl ⟨hname, rfl⟩)
    exact ⟨hnamed hlookup (.inl rfl), hnamed hlookup (.inr rfl)⟩
  | undefined hname =>
    have hlookup := lookup_namedFloats.2 (.inr ⟨hname, rfl⟩)
    exact ⟨hnamed hlookup (.inl rfl), hnamed hlookup (.inr rfl)⟩
  | number hv =>
    cases hv with
    | whole hne hdigits =>
      rw [List.head?_append_of_ne_nil _ hne]
      exact head?_digits_ne_sign hdigits
    | @point whole fraction power e hne hdigits =>
      cases whole with
      | nil => exact ⟨by simp, by simp⟩
      | cons c whole =>
        have hdigit : ∀ d ∈ [c], d.isDigit = true := fun d hd =>
          hdigits d (List.mem_append_left _ (List.mem_singleton.1 hd ▸ List.mem_cons_self))
        have hhead := head?_digits_ne_sign hdigit
        exact hhead

lemma parseFloat_eq_ok : parseFloat text = .ok x ↔ SaysFloat text x := by
  unfold parseFloat
  split_ifs with hempty
  · have htext : text.toList = [] := String.toList_eq_nil_iff.2 (String.isEmpty_iff.1 hempty)
    have hnone : magnitude? [] = none := by decide +kernel
    constructor
    · intro h
      cases h
    · rintro ⟨sign, negative, cs, y, hsplit, -, hy, -⟩
      rw [htext] at hsplit
      obtain ⟨-, rfl⟩ := List.append_eq_nil_iff.1 hsplit.symm
      cases hnone.symm.trans (magnitude?_eq_some.2 hy)
  · dsimp only
    constructor
    · intro h
      split at h
      · next y hy =>
        cases h
        obtain ⟨sign, hsign, hsplit⟩ := exists_sign text.toList
        exact ⟨sign, _, _, y, hsplit, hsign, magnitude?_eq_some.1 hy, rfl⟩
      · cases h
    · rintro ⟨sign, negative, cs, y, hsplit, hsign, hy, rfl⟩
      rw [hsplit, splitSign_append hsign hy.head?_ne_sign]
      dsimp only
      rw [magnitude?_eq_some.2 hy]

lemma parseFloat_eq_error {flaw : LiteralFlaw} :
    parseFloat text = .error flaw ↔ FloatFlaw text flaw := by
  have herror (flaw : LiteralFlaw) (h : parseFloat text = .error flaw) :
      flaw = if text = "" then .emptyFloat else .invalidFloat := by
    unfold parseFloat at h
    simp only [String.isEmpty_iff] at h
    split
    · next hempty =>
      rw [if_pos hempty] at h
      exact (Except.error.inj h).symm
    · next hempty =>
      rw [if_neg hempty] at h
      split at h
      · cases h
      · exact (Except.error.inj h).symm
  unfold FloatFlaw
  simp only [← parseFloat_eq_ok]
  cases h : parseFloat text with
  | ok y => simp
  | error flaw' => simp [← herror flaw' h, eq_comm]

end Floats

end LoadTest.Proofs
