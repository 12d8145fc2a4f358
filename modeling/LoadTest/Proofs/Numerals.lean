import LoadTest.Json.Printer
import LoadTest.Json.Reader
import LoadTest.Proofs.ShortestDecimals
import LoadTest.Proofs.TextForms

/-!
# Numerals are read back

An integer is written with its digits, and a finite float in positional notation with a point. Zeros
that fill the places up to the point, and zeros that are left out after it, do not change the
number, so the numeral of a float is read as a decimal in its basin.
-/

namespace LoadTest.Proofs

open Json Decimal

/-! ### Digits -/

section Digits

variable {c : Char} {ds rest : List Char} {n : ℕ}

/-- Digits that may stand before a point: at least one, and a zero in front only alone. -/
structure IsWhole (ds : List Char) : Prop where
  digits : ∀ c ∈ ds, c.isDigit = true
  nonempty : ds ≠ []
  trimmed : 1 < ds.length → ds.head? ≠ some '0'

lemma isWordChar_of_isDigit (h : c.isDigit = true) : isWordChar c = true := by
  simp [isWordChar, Char.isAlphanum, h]

lemma isDigit_of_mem (h : c ∈ Nat.toDigits 10 n) : c.isDigit = true :=
  Nat.isDigit_of_mem_toDigits (by decide) (by decide) h

lemma isDigit_of_mem_replicate {k : ℕ} (h : c ∈ List.replicate k '0') : c.isDigit = true := by
  rw [List.eq_of_mem_replicate h]
  rfl

lemma ofDigits_eq (ds : List Char) : ofDigits ds = Nat.ofDigitChars 10 ds 0 := digitsValue_eq ds

lemma ofDigits_toDigits (n : ℕ) : ofDigits (Nat.toDigits 10 n) = n := by
  rw [ofDigits_eq, Nat.ofDigitChars_ten_toDigits]

/-- Zeros behind a number multiply it. -/
lemma ofDigits_append_zeros (ds : List Char) (k : ℕ) :
    ofDigits (ds ++ List.replicate k '0') = 10 ^ k * ofDigits ds := by
  rw [ofDigits_eq, ofDigits_eq, Nat.ofDigitChars_append, Nat.ofDigitChars_replicate_zero]

/-- Zeros in front of a number do not count. -/
lemma ofDigits_zeros_append (k : ℕ) (ds : List Char) :
    ofDigits (List.replicate k '0' ++ ds) = ofDigits ds := by
  rw [ofDigits_eq, ofDigits_eq, Nat.ofDigitChars_append, Nat.ofDigitChars_replicate_zero,
    Nat.mul_zero]

/-- The digits of a positive number do not begin with a zero. -/
lemma head?_toDigits (n : ℕ) (hpos : 0 < n) : (Nat.toDigits 10 n).head? ≠ some '0' := by
  induction n using Nat.strong_induction_on with
  | _ n ih =>
    obtain hlt | hle := Nat.lt_or_ge n 10
    · have hdigit : ∀ n < 10, 0 < n → Nat.digitChar n ≠ '0' := by decide
      rw [Nat.toDigits_of_lt_base hlt]
      intro heq
      exact hdigit n hlt hpos (Option.some.inj heq)
    · rw [Nat.toDigits_of_base_le (by decide) hle,
        List.head?_append_of_ne_nil _ Nat.toDigits_ne_nil]
      exact ih (n / 10) (by omega) (by omega)

lemma isWhole_toDigits (n : ℕ) : IsWhole (Nat.toDigits 10 n) where
  digits _ hc := isDigit_of_mem hc
  nonempty := Nat.toDigits_ne_nil
  trimmed hlong := by
    refine head?_toDigits n (Nat.pos_of_ne_zero ?_)
    rintro rfl
    exact absurd hlong (by decide)

lemma splitDigits_append (hds : ∀ c ∈ ds, c.isDigit = true)
    (hrest : ∀ c, rest.head? = some c → c.isDigit = false) :
    splitDigits (ds ++ rest) = (ds, rest) := by
  unfold splitDigits
  rw [takeWhile_digits hds hrest, dropWhile_digits hds hrest]

lemma IsWhole.accepted (h : IsWhole ds) :
    (ds.isEmpty || (1 < ds.length && ds.head? = some '0')) = false := by
  rw [List.isEmpty_eq_false_iff.2 h.nonempty, Bool.false_or, Bool.and_eq_false_imp]
  intro hlong
  exact decide_eq_false (h.trimmed (of_decide_eq_true hlong))

end Digits

/-! ### Numerals -/

section Numerals

variable {ds rest text : List Char} {negative : Bool} {value : Json}

/-- A text of one word that is read as a number. -/
structure Numeral (text : List Char) (value : Json) : Prop where
  begins : ∃ c cs, text = c :: cs ∧ (c.isDigit = true ∨ c = '-')
  word : ∀ c ∈ text, isWordChar c = true
  number : number? text = some value

def signChars (negative : Bool) : List Char := if negative then ['-'] else []

lemma numeral_of_whole (hds : IsWhole ds) (hrest : ∀ c ∈ rest, isWordChar c = true)
    (h : unsigned? negative (ds ++ rest) = some value) :
    Numeral (signChars negative ++ (ds ++ rest)) value := by
  have hword : ∀ c ∈ ds ++ rest, isWordChar c = true := by
    intro c hc
    obtain hc | hc := List.mem_append.1 hc
    · exact isWordChar_of_isDigit (hds.digits c hc)
    · exact hrest c hc
  obtain ⟨d, ds, rfl⟩ := List.exists_cons_of_ne_nil hds.nonempty
  have hdigit : d.isDigit = true := hds.digits d List.mem_cons_self
  cases negative with
  | false =>
    refine ⟨⟨d, ds ++ rest, rfl, .inl hdigit⟩, hword, ?_⟩
    change number? (d :: (ds ++ rest)) = some value
    unfold number?
    split
    · next heq =>
      cases heq
      exact absurd hdigit (by decide)
    · exact h
  | true =>
    refine ⟨⟨'-', d :: ds ++ rest, rfl, .inr rfl⟩, ?_, h⟩
    intro c hc
    obtain rfl | hc := List.mem_cons.1 hc
    · rfl
    · exact hword c hc

lemma unsigned?_toDigits (negative : Bool) (n : ℕ) (h : negative = true → 0 < n) :
    unsigned? negative (Nat.toDigits 10 n ++ []) = some (.int (if negative then -n else n)) := by
  have hzero : (negative && Nat.toDigits 10 n = ['0']) = false := by
    rw [Bool.and_eq_false_imp]
    intro hnegative
    rw [decide_eq_false_iff_not]
    intro heq
    have hvalue := ofDigits_toDigits n
    rw [heq] at hvalue
    exact (h hnegative).ne hvalue
  unfold unsigned?
  rw [splitDigits_append (fun c => isDigit_of_mem) (by simp)]
  dsimp only
  rw [(isWhole_toDigits n).accepted, hzero, ofDigits_toDigits]
  rfl

lemma numeral_int (i : ℤ) : Numeral (toString i).toList (.int i) := by
  cases i with
  | ofNat n =>
    have htext : (toString (Int.ofNat n)).toList =
        signChars false ++ (Nat.toDigits 10 n ++ []) := by
      rw [List.append_nil]
      exact Nat.toList_repr
    rw [htext]
    exact numeral_of_whole (isWhole_toDigits n) nofun (unsigned?_toDigits false n nofun)
  | negSucc n =>
    have htext : (toString (Int.negSucc n)).toList =
        signChars true ++ (Nat.toDigits 10 (n + 1) ++ []) := by
      rw [List.append_nil, ← Nat.toList_repr]
      exact String.toList_append
    rw [htext]
    exact numeral_of_whole (isWhole_toDigits (n + 1)) nofun
      (unsigned?_toDigits true (n + 1) fun _ => n.succ_pos)

end Numerals

/-! ### Positional notation -/

section Positional

variable {d : Decimal} {whole fraction : List Char}

/-- The digits of a decimal before and after its point, where nothing or no needless zero may
stand. -/
structure SplitsInto (d : Decimal) (whole fraction : List Char) : Prop where
  isWhole : IsWhole whole
  digits : ∀ c ∈ fraction, c.isDigit = true
  value : (ofDigits (whole ++ fraction) : ℚ) / 10 ^ fraction.length =
    d.coefficient * 10 ^ d.exponent

lemma splitsInto_zero (h : d.coefficient = 0) : SplitsInto d ['0'] [] where
  isWhole := isWhole_toDigits 0
  digits := nofun
  value := by
    have hvalue : ofDigits ['0'] = 0 := ofDigits_toDigits 0
    rw [List.append_nil, hvalue, h, Nat.cast_zero, zero_mul, zero_div]

/-- A point moved to the right leaves zeros behind the digits. -/
lemma splitsInto_up (hc : 0 < d.coefficient) (h : (-d.exponent).toNat = 0) :
    SplitsInto d (Nat.toDigits 10 d.coefficient ++ List.replicate d.exponent.toNat '0') [] where
  isWhole :=
    { digits := fun _ hc => (List.mem_append.1 hc).elim isDigit_of_mem isDigit_of_mem_replicate
      nonempty := List.append_ne_nil_of_left_ne_nil Nat.toDigits_ne_nil _
      trimmed := fun _ => by
        rw [List.head?_append_of_ne_nil _ Nat.toDigits_ne_nil]
        exact head?_toDigits _ hc }
  digits := nofun
  value := by
    have hexponent : d.exponent = (d.exponent.toNat : ℤ) := by omega
    have hpower : (10 : ℚ) ^ d.exponent = 10 ^ d.exponent.toNat := by
      rw [← zpow_natCast, ← hexponent]
    rw [List.append_nil, ofDigits_append_zeros, ofDigits_toDigits, List.length_nil, pow_zero,
      div_one, hpower]
    push_cast
    ring

/-- A list without the zeros at its end. -/
def trimmedEnd (ds : List Char) : List Char := (ds.reverse.dropWhile (· = '0')).reverse

lemma exists_zeros (ds : List Char) : ∃ k, trimmedEnd ds ++ List.replicate k '0' = ds := by
  have hzeros : ds.reverse.takeWhile (· = '0') =
      List.replicate (ds.reverse.takeWhile (· = '0')).length '0' := by
    refine List.eq_replicate_iff.2 ⟨rfl, ?_⟩
    intro c hc
    have hzero := List.mem_takeWhile_imp hc
    exact of_decide_eq_true hzero
  refine ⟨(ds.reverse.takeWhile (· = '0')).length, ?_⟩
  calc trimmedEnd ds ++ List.replicate (ds.reverse.takeWhile (· = '0')).length '0'
      = trimmedEnd ds ++ (ds.reverse.takeWhile (· = '0')).reverse := by
        conv_rhs => rw [hzeros, List.reverse_replicate]
    _ = (ds.reverse.takeWhile (· = '0') ++ ds.reverse.dropWhile (· = '0')).reverse :=
        List.reverse_append.symm
    _ = ds := by rw [List.takeWhile_append_dropWhile, List.reverse_reverse]

/-- The digits of a number with zeros in front, so that there are more than `places` of them. -/
def paddedDigits (places n : ℕ) : List Char :=
  List.replicate (places + 1 - (Nat.toDigits 10 n).length) '0' ++ Nat.toDigits 10 n

lemma lt_length_paddedDigits (places n : ℕ) : places < (paddedDigits places n).length := by
  rw [paddedDigits, List.length_append, List.length_replicate]
  omega

lemma isDigit_of_mem_paddedDigits {places n : ℕ} {c : Char} (h : c ∈ paddedDigits places n) :
    c.isDigit = true :=
  (List.mem_append.1 h).elim isDigit_of_mem_replicate isDigit_of_mem

/-- Before a point that is moved to the left there is a single digit or the front of the number. -/
lemma isWhole_take_paddedDigits {n : ℕ} (hn : 0 < n) (places : ℕ) :
    IsWhole ((paddedDigits places n).take ((paddedDigits places n).length - places)) where
  digits _ hc := isDigit_of_mem_paddedDigits (List.mem_of_mem_take hc)
  nonempty := by
    have hlt := lt_length_paddedDigits places n
    rw [← List.length_pos_iff, List.length_take]
    omega
  trimmed hlong := by
    have hnone : places + 1 - (Nat.toDigits 10 n).length = 0 := by
      rw [List.length_take, paddedDigits, List.length_append, List.length_replicate] at hlong
      omega
    have hplain : paddedDigits places n = Nat.toDigits 10 n := by
      rw [paddedDigits, hnone]
      rfl
    have hlt := lt_length_paddedDigits places n
    rw [List.head?_take, if_neg (by omega), hplain]
    exact head?_toDigits n hn

lemma splitsInto_down (hc : 0 < d.coefficient) {places : ℕ} (h : d.exponent = -(places : ℤ))
    {digits : List Char} (hdigits : digits = paddedDigits places d.coefficient) :
    SplitsInto d (digits.take (digits.length - places))
      (trimmedEnd (digits.drop (digits.length - places))) := by
  have hwhole : IsWhole (digits.take (digits.length - places)) :=
    hdigits ▸ isWhole_take_paddedDigits hc places
  have hlt : places < digits.length := hdigits ▸ lt_length_paddedDigits places d.coefficient
  have hcut := List.take_append_drop (digits.length - places) digits
  have hlength : (digits.drop (digits.length - places)).length = places := by
    rw [List.length_drop]
    omega
  obtain ⟨k, hk⟩ := exists_zeros (digits.drop (digits.length - places))
  generalize digits.take (digits.length - places) = whole at hwhole hcut
  generalize trimmedEnd (digits.drop (digits.length - places)) = kept at hk
  rw [← hk] at hcut hlength
  rw [List.length_append, List.length_replicate] at hlength
  have hvalue : 10 ^ k * ofDigits (whole ++ kept) = d.coefficient := by
    rw [← ofDigits_append_zeros, List.append_assoc, hcut, hdigits, paddedDigits,
      ofDigits_zeros_append, ofDigits_toDigits]
  refine ⟨hwhole, ?_, ?_⟩
  · intro c hc
    apply isDigit_of_mem_paddedDigits
    rw [← hdigits, ← hcut]
    exact List.mem_append_right _ (List.mem_append_left _ hc)
  · rw [h, zpow_neg, zpow_natCast, ← hlength, ← hvalue, pow_add]
    push_cast
    field_simp

/-- A decimal in positional notation, with a point where a digit follows it. -/
lemma exists_positional (d : Decimal) : ∃ whole fraction, SplitsInto d whole fraction ∧
    (positional d).toList =
      signChars d.negative ++ (whole ++ if fraction = [] then [] else '.' :: fraction) := by
  obtain ⟨sign, hsign⟩ : ∃ sign, sign = if d.negative = true then "-" else "" := ⟨_, rfl⟩
  obtain ⟨places, hplaces⟩ : ∃ places, places = (-d.exponent).toNat := ⟨_, rfl⟩
  obtain ⟨digits, hdigits⟩ : ∃ digits, digits = paddedDigits places d.coefficient := ⟨_, rfl⟩
  have hchars : sign.toList = signChars d.negative := by
    rw [hsign]
    cases d.negative <;> rfl
  have hread : positional d = if d.coefficient = 0 then sign ++ "0"
      else if places = 0 then sign ++ String.ofList
        (Nat.toDigits 10 d.coefficient ++ List.replicate d.exponent.toNat '0')
      else if (trimmedEnd (digits.drop (digits.length - places))).isEmpty = true then
        sign ++ String.ofList (digits.take (digits.length - places))
      else sign ++ String.ofList (digits.take (digits.length - places)) ++ "." ++
        String.ofList (trimmedEnd (digits.drop (digits.length - places))) := by
    subst hsign hdigits hplaces
    rfl
  rw [hread]
  split_ifs with hzero hup hkept
  · refine ⟨['0'], [], splitsInto_zero hzero, ?_⟩
    rw [String.toList_append, hchars]
    rfl
  · refine ⟨_, [], splitsInto_up (Nat.pos_of_ne_zero hzero) (hplaces ▸ hup), ?_⟩
    rw [String.toList_append, hchars, String.toList_ofList, if_pos rfl, List.append_nil]
  · refine ⟨_, _, splitsInto_down (Nat.pos_of_ne_zero hzero) (by omega) hdigits, ?_⟩
    rw [String.toList_append, hchars, String.toList_ofList, if_pos (List.isEmpty_iff.1 hkept),
      List.append_nil]
  · refine ⟨_, _, splitsInto_down (Nat.pos_of_ne_zero hzero) (by omega) hdigits, ?_⟩
    rw [if_neg (mt List.isEmpty_iff.2 hkept)]
    simp only [String.toList_append, hchars, String.toList_ofList, List.append_assoc]
    rfl

/-- A zero after the point may be written where no digit is. -/
lemma SplitsInto.withZero (h : SplitsInto d whole []) : SplitsInto d whole ['0'] where
  isWhole := h.isWhole
  digits := (isWhole_toDigits 0).digits
  value := by
    have hzero : ofDigits (whole ++ ['0']) = 10 ^ 1 * ofDigits whole :=
      ofDigits_append_zeros whole 1
    rw [← h.value, List.append_nil, hzero, List.length_nil, List.length_singleton]
    push_cast
    field_simp

end Positional

/-! ### Floats -/

section Floats

variable {x : Float} {exact : BinaryFraction} {d : Decimal} {whole fraction : List Char}

lemma ne_point_of_mem (hwhole : IsWhole whole) (negative : Bool) :
    '.' ∉ signChars negative ++ (whole ++ []) := by
  rw [List.append_nil, List.mem_append]
  rintro (hsign | hdigit)
  · cases negative
    · cases hsign
    · exact absurd (List.mem_singleton.1 hsign) (by decide)
  · exact absurd (hwhole.digits _ hdigit) (by decide)

/-- A float is written with digits on both sides of its point. -/
lemma exists_realText (h : floatText x = positional d) :
    ∃ whole fraction, SplitsInto d whole fraction ∧ fraction ≠ [] ∧
      (realText x).toList = signChars d.negative ++ (whole ++ '.' :: fraction) := by
  obtain ⟨whole, fraction, hsplit, htext⟩ := exists_positional d
  have hpoint := String.contains_char_eq (c := '.') (s := positional d)
  unfold realText
  dsimp only
  rw [h, hpoint, htext]
  split_ifs with hnone hsome hsome
  · exact absurd (of_decide_eq_true hsome) (hnone ▸ ne_point_of_mem hsplit.isWhole d.negative)
  · subst hnone
    refine ⟨whole, ['0'], hsplit.withZero, nofun, ?_⟩
    rw [String.toList_append, htext, if_pos rfl, List.append_nil, List.append_assoc]
    rfl
  · exact ⟨whole, fraction, hsplit, hnone, htext.trans (by rw [if_neg hnone])⟩
  · refine absurd (decide_eq_true ?_) hsome
    exact List.mem_append_right _ (List.mem_append_right _ List.mem_cons_self)

lemma unsigned?_point (hwhole : IsWhole whole) (hdigits : ∀ c ∈ fraction, c.isDigit = true)
    (hne : fraction ≠ []) (negative : Bool) : unsigned? negative (whole ++ '.' :: fraction) =
      some (.real (ofParts negative whole fraction 0).toFloat) := by
  have hsplit : splitDigits (whole ++ '.' :: fraction) = (whole, '.' :: fraction) :=
    splitDigits_append hwhole.digits (by rintro _ ⟨⟩; rfl)
  have htail : tail? ('.' :: fraction) = some (fraction, 0) := by
    have hsplit : splitDigits (fraction ++ []) = (fraction, []) :=
      splitDigits_append hdigits (by simp)
    rw [List.append_nil] at hsplit
    simp [tail?, hsplit, hne]
  unfold unsigned?
  rw [hsplit]
  dsimp only
  rw [hwhole.accepted, htail]
  rfl

lemma toFloat_ofParts (h : BinaryFraction.ofFloat? x = some exact)
    (hsplit : SplitsInto (shortest exact) whole fraction) :
    (ofParts (shortest exact).negative whole fraction 0).toFloat = x := by
  obtain ⟨hx, hfinite, hrank⟩ := ofFloat?_parts h
  have hvalue : ((ofParts (shortest exact).negative whole fraction 0).coefficient : ℚ) *
      10 ^ (ofParts (shortest exact).negative whole fraction 0).exponent =
        (shortest exact).coefficient * 10 ^ (shortest exact).exponent := by
    rw [← hsplit.value, ofParts, zero_sub, zpow_neg, zpow_natCast, div_eq_mul_inv]
  obtain hzero | hm := Nat.eq_zero_or_pos exact.mantissa
  · have hshortest : shortest exact = ⟨exact.negative, 0, 0⟩ := if_pos hzero
    have hcoefficient : (shortest exact).coefficient = 0 := congrArg Decimal.coefficient hshortest
    refine toFloat_of_zero h hzero (congrArg Decimal.negative hshortest) ?_
    rw [hcoefficient, Nat.cast_zero, zero_mul] at hvalue
    exact_mod_cast (mul_eq_zero.1 hvalue).resolve_right (by positivity)
  · obtain ⟨hsign, hbasin⟩ := shortest_inBasin hm hx
    exact toFloat_of_inBasin h hm hsign (hvalue ▸ hbasin)

/-- A finite float is read back from its numeral. -/
lemma numeral_real (h : x.isFinite = true) : Numeral (realText x).toList (.real x) := by
  obtain ⟨exact, hexact⟩ := exists_ofFloat? h
  have htext : floatText x = positional (shortest exact) := by
    unfold floatText
    rw [hexact]
  obtain ⟨whole, fraction, hsplit, hne, hreal⟩ := exists_realText htext
  have hread := unsigned?_point hsplit.isWhole hsplit.digits hne (shortest exact).negative
  rw [toFloat_ofParts hexact hsplit] at hread
  rw [hreal]
  refine numeral_of_whole hsplit.isWhole ?_ hread
  intro c hc
  obtain rfl | hc := List.mem_cons.1 hc
  · rfl
  · exact isWordChar_of_isDigit (hsplit.digits c hc)

end Floats

end LoadTest.Proofs
