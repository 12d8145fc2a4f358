import LoadTest.Json.Record
import LoadTest.Proofs.Numerals

/-!
# JSON text is read back

A value is written as a text that is cut into tokens, which make up the value again. A token ends
where the next one begins: a string at its quote, a number or a word at the first character that
belongs to neither, and such a character follows whatever stands inside an array or an object.
-/

namespace LoadTest.Proofs

open Json

/-! ### Strings -/

section Strings

variable {c : Char} {cs rest : List Char}

/-- A character that stands for itself in a string. -/
def Ordinary (c : Char) : Prop := c ≠ '"' ∧ c ≠ '\\' ∧ 0x20 ≤ c.toNat

instance (c : Char) : Decidable (Ordinary c) := inferInstanceAs (Decidable (_ ∧ _))

/-- How a character may be written in a string. -/
inductive EscapeOf : Char → List Char → Prop
  | short {c e : Char} (h : escaped? e = some c) (hcode : e ≠ 'u') : EscapeOf c ['\\', e]
  | code {c a b : Char} (h : fourHex? ['0', '0', a, b] = some c.toNat) (hcontrol : c.toNat < 0x20)
      (ha : Ordinary a) (hb : Ordinary b) : EscapeOf c ['\\', 'u', '0', '0', a, b]
  | itself {c : Char} (h : Ordinary c) : EscapeOf c [c]

lemma escapeOf_escape (c : Char) : EscapeOf c (escape c).toList := by
  have hcodes : ∀ n < 0x20, fourHex? ['0', '0', hexDigit (n / 16), hexDigit (n % 16)] = some n ∧
      Ordinary (hexDigit (n / 16)) ∧ Ordinary (hexDigit (n % 16)) := by decide
  unfold escape
  split
  · exact .short rfl (by decide)
  · exact .short rfl (by decide)
  · exact .short rfl (by decide)
  · exact .short rfl (by decide)
  · exact .short rfl (by decide)
  · exact .short rfl (by decide)
  · exact .short rfl (by decide)
  · next hquote hbackslash _ _ _ _ _ =>
    split
    · next hcontrol =>
      obtain ⟨hcode, ha, hb⟩ := hcodes c.toNat hcontrol
      have hdigits : (String.ofList [hexDigit (c.toNat / 16), hexDigit (c.toNat % 16)]).toList =
          [hexDigit (c.toNat / 16), hexDigit (c.toNat % 16)] := String.toList_ofList
      rw [String.toList_append, hdigits]
      exact .code hcode hcontrol ha hb
    · next hprintable =>
      rw [Char.toString_eq_singleton, String.toList_singleton]
      exact .itself ⟨hquote, hbackslash, Nat.not_lt.1 hprintable⟩

lemma splitString_ordinary (h : Ordinary c) (done rest : List Char) :
    splitString done (c :: rest) = splitString (c :: done) rest := by
  obtain ⟨hquote, hbackslash, hprintable⟩ := h
  rw [splitString]
  · exact if_neg (Nat.not_lt.2 hprintable)
  · exact hquote
  · intro d ds heq
    exact absurd heq hbackslash

lemma splitString_escape (h : EscapeOf c cs) (done rest : List Char) :
    splitString done (cs ++ rest) = splitString (cs.reverse ++ done) rest := by
  cases h with
  | short => rfl
  | code h hcontrol ha hb =>
    have hzero : Ordinary '0' := by decide
    change splitString ('u' :: '\\' :: done) ('0' :: '0' :: _ :: _ :: rest) = _
    rw [splitString_ordinary hzero, splitString_ordinary hzero, splitString_ordinary ha,
      splitString_ordinary hb]
    rfl
  | itself h => exact splitString_ordinary h done rest

lemma unitsInto_escape (h : EscapeOf c cs) (done : List Unit16) (rest : List Char) :
    unitsInto done (cs ++ rest) = unitsInto (.char c :: done) rest := by
  cases h with
  | short h hcode =>
    rw [List.cons_append, List.cons_append, List.nil_append, unitsInto, h]
    rintro a b d e rest ⟨⟩
    exact absurd rfl hcode
  | code h hcontrol ha hb =>
    have hunit : Unit16.ofCode c.toNat = .char c := by
      unfold Unit16.ofCode
      rw [if_neg (by simp; omega), if_neg (by simp; omega), Char.ofNat_toNat]
    change unitsInto done ('\\' :: 'u' :: '0' :: '0' :: _ :: _ :: rest) = _
    rw [unitsInto, h]
    exact congrArg (fun unit => unitsInto (unit :: done) rest) hunit
  | itself h =>
    rw [List.cons_append, List.nil_append, unitsInto]
    · rintro a b d e rest rfl
      exact absurd rfl h.2.1
    · rintro d rest rfl
      exact absurd rfl h.2.1

/-- The characters of a string's text between its quotes. -/
def escapedChars (cs : List Char) : List Char := cs.flatMap fun c => (escape c).toList

lemma toList_quote (s : String) : (quote s).toList = '"' :: (escapedChars s.toList ++ ['"']) := by
  have hfold : ∀ (cs : List Char) (out : String),
      (cs.foldl (fun out c => out ++ escape c) out).toList = out.toList ++ escapedChars cs := by
    intro cs
    induction cs with
    | nil =>
      intro out
      exact (List.append_nil _).symm
    | cons c cs ih =>
      intro out
      rw [List.foldl_cons, ih, String.toList_append, List.append_assoc]
      rfl
  have hmark : "\"".toList = ['"'] := rfl
  have hempty : "".toList = [] := rfl
  unfold quote
  rw [String.toList_append, String.toList_append, hfold, hmark, hempty]
  rfl

lemma splitString_escapedChars (cs done rest : List Char) :
    splitString done (escapedChars cs ++ '"' :: rest) =
      some (done.reverse ++ escapedChars cs, rest) := by
  induction cs generalizing done with
  | nil =>
    rw [escapedChars, List.flatMap_nil, List.nil_append, List.append_nil, splitString]
  | cons c cs ih =>
    have hcons : escapedChars (c :: cs) = (escape c).toList ++ escapedChars cs := rfl
    rw [hcons, List.append_assoc, splitString_escape (escapeOf_escape c), ih]
    simp

lemma unitsInto_escapedChars (cs : List Char) (done : List Unit16) :
    unitsInto done (escapedChars cs) = some ((cs.map .char).reverse ++ done) := by
  induction cs generalizing done with
  | nil => rfl
  | cons c cs ih =>
    have hcons : escapedChars (c :: cs) = (escape c).toList ++ escapedChars cs := rfl
    rw [hcons, unitsInto_escape (escapeOf_escape c), ih]
    simp

lemma joinInto_chars (cs done : List Char) :
    joinInto done (cs.map .char) = some (cs.reverse ++ done) := by
  induction cs generalizing done with
  | nil => rfl
  | cons c cs ih =>
    rw [List.map_cons, joinInto, ih]
    simp

lemma stringToken?_escapedChars (s : String) :
    stringToken? (escapedChars s.toList) = some (.text (some s)) := by
  unfold stringToken?
  rw [unitsInto_escapedChars, Option.map_some, List.append_nil, ← List.map_reverse, joinInto_chars,
    List.reverse_reverse, List.append_nil, Option.map_some, String.ofList_toList]

end Strings

/-! ### Tokens -/

section Tokens

variable {c : Char} {cs word rest : List Char}

/-- Whether a number or a word ends before a text. -/
def Stops (rest : List Char) : Prop := ∀ c, rest.head? = some c → isWordChar c = false

lemma tokensInto_mark {token : Token} (h : mark? c = some token) (hspace : isSpace c = false)
    (hquote : c ≠ '"') (done : List Token) (rest : List Char) :
    tokensInto done (c :: rest) = tokensInto (token :: done) rest := by
  rw [tokensInto]
  simp [hspace, hquote, h]

lemma tokensInto_quote (s : String) (done : List Token) (rest : List Char) :
    tokensInto done ((quote s).toList ++ rest) = tokensInto (.text (some s) :: done) rest := by
  have hsplit := splitString_escapedChars s.toList [] rest
  have htoken := stringToken?_escapedChars s
  rw [toList_quote, List.cons_append, List.append_assoc, List.cons_append, List.nil_append,
    tokensInto, if_neg (by decide), if_pos rfl]
  split
  · next body after hbody =>
    rw [hsplit, List.reverse_nil, List.nil_append] at hbody
    cases hbody
    rw [htoken]
  · next hnone =>
    rw [hsplit] at hnone
    cases hnone

lemma tokensInto_leaf {value : Json} (hspace : isSpace c = false) (hquote : c ≠ '"')
    (hmark : mark? c = none) (hword : ∀ d ∈ word, isWordChar d = true) (hrest : Stops rest)
    (h : leaf? (c :: word) = some value) (done : List Token) :
    tokensInto done (c :: (word ++ rest)) = tokensInto (.leaf value :: done) rest := by
  have htaken : (word ++ rest).takeWhile isWordChar = word := by
    rw [List.takeWhile_append_of_pos hword]
    cases rest with
    | nil => exact List.append_nil word
    | cons d rest => simp [hrest d rfl]
  have hdropped : (word ++ rest).dropWhile isWordChar = rest := by
    rw [List.dropWhile_append_of_pos hword]
    cases rest with
    | nil => rfl
    | cons d rest => simp [hrest d rfl]
  rw [tokensInto, if_neg (by simp [hspace]), if_neg hquote, hmark]
  simp only [htaken, hdropped, h]

/-- A numeral begins with a digit or a sign, and so neither with a mark nor like a word. -/
lemma begins_numeral (h : c.isDigit = true ∨ c = '-') :
    isSpace c = false ∧ c ≠ '"' ∧ mark? c = none ∧ ∀ cs, leaf? (c :: cs) = number? (c :: cs) := by
  have hcode : c.toNat = 45 ∨ 48 ≤ c.toNat ∧ c.toNat ≤ 57 := by
    obtain hdigit | rfl := h
    · exact .inr (Char.isDigit_iff_toNat.1 hdigit)
    · exact .inl rfl
  have hne : ∀ d : Char, d.toNat ≠ 45 ∧ (d.toNat < 48 ∨ 57 < d.toNat) → c ≠ d := by
    rintro d hd rfl
    omega
  refine ⟨?_, hne _ (by decide), ?_, ?_⟩
  · unfold isSpace
    simp [hne ' ' (by decide), hne '\n' (by decide), hne '\t' (by decide), hne '\r' (by decide)]
  · unfold mark?
    split
    · exact absurd rfl (hne '[' (by decide))
    · exact absurd rfl (hne ']' (by decide))
    · exact absurd rfl (hne '\x7b' (by decide))
    · exact absurd rfl (hne '\x7d' (by decide))
    · exact absurd rfl (hne ',' (by decide))
    · exact absurd rfl (hne ':' (by decide))
    · rfl
  · intro cs
    have hword : ∀ (d : Char) (ds : List Char), c ≠ d → c :: cs ≠ d :: ds := by
      rintro d ds hd heq
      exact hd (List.cons.inj heq).1
    have hnull : c :: cs ≠ "null".toList := hword 'n' _ (hne _ (by decide))
    have htrue : c :: cs ≠ "true".toList := hword 't' _ (hne _ (by decide))
    have hfalse : c :: cs ≠ "false".toList := hword 'f' _ (hne _ (by decide))
    unfold leaf?
    rw [if_neg hnull, if_neg htrue, if_neg hfalse]

end Tokens

/-! ### Values -/

/-- The values that have a text of their own: those without halves of surrogate pairs and without
infinite numbers. -/
inductive Plain : Json → Prop
  | null : Plain .null
  | bool (b : Bool) : Plain (.bool b)
  | int (i : ℤ) : Plain (.int i)
  | real {x : Float} (h : x.isFinite = true) : Plain (.real x)
  | str (s : String) : Plain (.str s)
  | arr {items : List Json} (h : ∀ item ∈ items, Plain item) : Plain (.arr items)
  | obj {members : List (String × Json)} (h : ∀ m ∈ members, Plain m.2) : Plain (.obj members)

/-- A value is written as `text`, which is cut into `tokens`, of which it is made up again. -/
structure Spells (j : Json) (text : List Char) (tokens : List Token) : Prop where
  written : ∀ out, (renderInto out j).toList = out.toList ++ text
  cut : ∀ done rest, Stops rest →
    tokensInto done (text ++ rest) = tokensInto (tokens.reverse ++ done) rest
  made : ∀ m : Machine, m.stage = .value ∨ m.stage = .valueOrClose →
    tokens.foldlM Machine.step? m = some { m with stage := .after j }

section Values

variable {j : Json} {text : List Char} {tokens : List Token}

lemma step?_value {m : Machine} (hm : m.stage = .value ∨ m.stage = .valueOrClose) (token : Token)
    (hopen : token ≠ .closeArray) : m.step? token = m.value? token := by
  obtain ⟨stage, frames⟩ := m
  obtain rfl | rfl := hm
  · rfl
  · cases token with
    | closeArray => exact absurd rfl hopen
    | openArray => rfl
    | openObject => rfl
    | closeObject => rfl
    | comma => rfl
    | colon => rfl
    | text value => rfl
    | leaf value => rfl

lemma foldlM_leaf {m : Machine} (value : Json) (hm : m.stage = .value ∨ m.stage = .valueOrClose) :
    [Token.leaf value].foldlM Machine.step? m = some { m with stage := .after value } := by
  rw [List.foldlM_cons, step?_value hm (.leaf value) nofun]
  rfl

lemma spells_word {c : Char} {word : List Char} {value : Json}
    (hwritten : ∀ out, (renderInto out value).toList = out.toList ++ c :: word)
    (hspace : isSpace c = false) (hquote : c ≠ '"') (hmark : mark? c = none)
    (hword : ∀ d ∈ word, isWordChar d = true) (hleaf : leaf? (c :: word) = some value) :
    Spells value (c :: word) [.leaf value] where
  written := hwritten
  cut done _ hrest := tokensInto_leaf hspace hquote hmark hword hrest hleaf done
  made _ hm := foldlM_leaf value hm

lemma spells_numeral {value : Json}
    (hwritten : ∀ out, (renderInto out value).toList = out.toList ++ text)
    (h : Numeral text value) : Spells value text [.leaf value] := by
  obtain ⟨⟨c, cs, rfl, hbegin⟩, hword, hnumber⟩ := h
  obtain ⟨hspace, hquote, hmark, hleaf⟩ := begins_numeral hbegin
  exact spells_word hwritten hspace hquote hmark (fun d hd => hword d (List.mem_cons_of_mem c hd))
    ((hleaf cs).trans hnumber)

lemma spells_str (s : String) : Spells (.str s) (quote s).toList [.text (some s)] where
  written out := by rw [renderInto, String.toList_append]
  cut done rest _ := tokensInto_quote s done rest
  made m hm := by
    rw [List.foldlM_cons, step?_value hm (.text (some s)) nofun]
    rfl

/-- What follows the first item of an array. -/
structure SpellsItems (items : List Json) (text : List Char) (tokens : List Token) : Prop where
  written : ∀ out, (renderItems out false items).toList = out.toList ++ text
  stops : ∀ rest, Stops rest → Stops (text ++ rest)
  cut : ∀ done rest, Stops rest →
    tokensInto done (text ++ rest) = tokensInto (tokens.reverse ++ done) rest
  made : ∀ first before frames, (tokens ++ [Token.closeArray]).foldlM Machine.step?
    { stage := .after first, frames := .array before :: frames } =
      some { stage := .after (.arr (before.reverse ++ first :: items)), frames }

lemma stops_mark {c : Char} (h : isWordChar c = false) (rest : List Char) : Stops (c :: rest) := by
  rintro _ ⟨⟩
  exact h

lemma exists_spellsItems {items : List Json}
    (h : ∀ item ∈ items, ∃ text tokens, Spells item text tokens) :
    ∃ text tokens, SpellsItems items text tokens := by
  induction items with
  | nil =>
    refine ⟨[], [], ⟨?_, ?_, ?_, ?_⟩⟩
    · intro out
      rw [renderItems, List.append_nil]
    · intro rest hrest
      exact hrest
    · intro done rest _
      rfl
    · intro first before frames
      change some _ = _
      rw [List.reverse_cons]
  | cons item items ih =>
    obtain ⟨text, tokens, hitem⟩ := h item List.mem_cons_self
    obtain ⟨text', tokens', hitems⟩ := ih fun i hi => h i (List.mem_cons_of_mem item hi)
    refine ⟨',' :: (text ++ text'), .comma :: (tokens ++ tokens'), ⟨?_, ?_, ?_, ?_⟩⟩
    · intro out
      rw [renderItems, hitems.written, hitem.written]
      simp
    · intro rest _
      exact stops_mark (by decide) _
    · intro done rest hrest
      rw [List.cons_append, List.append_assoc, tokensInto_mark rfl (by decide) (by decide),
        hitem.cut _ _ (hitems.stops rest hrest), hitems.cut _ _ hrest]
      simp
    · intro first before frames
      have hrest := hitems.made item (first :: before) frames
      rw [List.cons_append, List.append_assoc, List.foldlM_cons]
      change (tokens ++ _).foldlM Machine.step?
        { stage := .value, frames := .array (first :: before) :: frames } = _
      rw [List.foldlM_append, hitem.made _ (.inl rfl)]
      rw [List.reverse_cons, List.append_assoc] at hrest
      exact hrest

/-- An array is spelled by its items, with commas between them. -/
lemma exists_spells_arr {items : List Json}
    (h : ∀ item ∈ items, ∃ text tokens, Spells item text tokens) :
    ∃ text tokens, Spells (.arr items) text tokens := by
  cases items with
  | nil =>
    refine ⟨['[', ']'], [.openArray, .closeArray], ⟨?_, ?_, ?_⟩⟩
    · intro out
      rw [renderInto, renderItems, String.toList_append, String.toList_append, List.append_assoc]
      rfl
    · intro done rest _
      change tokensInto done ('[' :: ']' :: rest) = _
      rw [tokensInto_mark rfl (by decide) (by decide), tokensInto_mark rfl (by decide) (by decide)]
      rfl
    · intro m hm
      rw [List.foldlM_cons, step?_value hm .openArray nofun]
      rfl
  | cons item items =>
    obtain ⟨text, tokens, hitem⟩ := h item List.mem_cons_self
    obtain ⟨text', tokens', hitems⟩ :=
      exists_spellsItems fun i hi => h i (List.mem_cons_of_mem item hi)
    refine ⟨'[' :: (text ++ (text' ++ [']'])),
      .openArray :: (tokens ++ (tokens' ++ [.closeArray])), ⟨?_, ?_, ?_⟩⟩
    · intro out
      rw [renderInto, renderItems, if_pos rfl, String.toList_append, hitems.written, hitem.written]
      simp
    · intro done rest _
      have hclose : Stops (']' :: rest) := stops_mark (by decide) rest
      simp only [List.cons_append, List.append_assoc, List.nil_append]
      rw [tokensInto_mark rfl (by decide) (by decide), hitem.cut _ _ (hitems.stops _ hclose),
        hitems.cut _ _ hclose, tokensInto_mark rfl (by decide) (by decide)]
      simp
    · intro m hm
      rw [List.foldlM_cons, step?_value hm .openArray nofun]
      change (tokens ++ _).foldlM Machine.step?
        { stage := .valueOrClose, frames := .array [] :: m.frames } = _
      rw [List.foldlM_append, hitem.made _ (.inr rfl)]
      exact hitems.made item [] m.frames

/-- What follows the first member of an object. -/
structure SpellsMembers (members : List (String × Json)) (text : List Char) (tokens : List Token) :
    Prop where
  written : ∀ out, (renderMembers out false members).toList = out.toList ++ text
  stops : ∀ rest, Stops rest → Stops (text ++ rest)
  cut : ∀ done rest, Stops rest →
    tokensInto done (text ++ rest) = tokensInto (tokens.reverse ++ done) rest
  made : ∀ name first before frames, (tokens ++ [Token.closeObject]).foldlM Machine.step?
    { stage := .after first, frames := .object true before name :: frames } =
      some { stage := .after (.obj (before.reverse ++ (name, first) :: members)), frames }

lemma exists_spellsMembers {members : List (String × Json)}
    (h : ∀ m ∈ members, ∃ text tokens, Spells m.2 text tokens) :
    ∃ text tokens, SpellsMembers members text tokens := by
  induction members with
  | nil =>
    refine ⟨[], [], ⟨?_, ?_, ?_, ?_⟩⟩
    · intro out
      rw [renderMembers, List.append_nil]
    · intro rest hrest
      exact hrest
    · intro done rest _
      rfl
    · intro name first before frames
      change some _ = _
      rw [closeObject, if_pos rfl, List.reverse_cons]
  | cons m members ih =>
    obtain ⟨key, value⟩ := m
    obtain ⟨text, tokens, hvalue⟩ := h (key, value) List.mem_cons_self
    obtain ⟨text', tokens', hmembers⟩ := ih fun m hm => h m (List.mem_cons_of_mem _ hm)
    refine ⟨',' :: ((quote key).toList ++ ':' :: (text ++ text')),
      .comma :: .text (some key) :: .colon :: (tokens ++ tokens'), ⟨?_, ?_, ?_, ?_⟩⟩
    · intro out
      rw [renderMembers, hmembers.written, hvalue.written]
      simp
    · intro rest _
      exact stops_mark (by decide) _
    · intro done rest hrest
      simp only [List.cons_append, List.append_assoc]
      rw [tokensInto_mark rfl (by decide) (by decide), tokensInto_quote,
        tokensInto_mark rfl (by decide) (by decide), hvalue.cut _ _ (hmembers.stops rest hrest),
        hmembers.cut _ _ hrest]
      simp
    · intro name first before frames
      have hrest := hmembers.made key value ((name, first) :: before) frames
      change (tokens ++ tokens' ++ _).foldlM Machine.step?
        { stage := .value, frames := .object true ((name, first) :: before) key :: frames } = _
      rw [List.append_assoc, List.foldlM_append, hvalue.made _ (.inl rfl)]
      rw [List.reverse_cons, List.append_assoc] at hrest
      exact hrest

/-- An object is spelled by its names and values. -/
lemma exists_spells_obj {members : List (String × Json)}
    (h : ∀ m ∈ members, ∃ text tokens, Spells m.2 text tokens) :
    ∃ text tokens, Spells (.obj members) text tokens := by
  cases members with
  | nil =>
    refine ⟨['\x7b', '\x7d'], [.openObject, .closeObject], ⟨?_, ?_, ?_⟩⟩
    · intro out
      rw [renderInto, renderMembers, String.toList_append, String.toList_append, List.append_assoc]
      rfl
    · intro done rest _
      change tokensInto done ('\x7b' :: '\x7d' :: rest) = _
      rw [tokensInto_mark rfl (by decide) (by decide), tokensInto_mark rfl (by decide) (by decide)]
      rfl
    · intro m hm
      rw [List.foldlM_cons, step?_value hm .openObject nofun]
      rfl
  | cons m members =>
    obtain ⟨key, value⟩ := m
    obtain ⟨text, tokens, hvalue⟩ := h (key, value) List.mem_cons_self
    obtain ⟨text', tokens', hmembers⟩ :=
      exists_spellsMembers fun m hm => h m (List.mem_cons_of_mem _ hm)
    refine ⟨'\x7b' :: ((quote key).toList ++ ':' :: (text ++ (text' ++ ['\x7d']))),
      .openObject :: .text (some key) :: .colon :: (tokens ++ (tokens' ++ [.closeObject])),
      ⟨?_, ?_, ?_⟩⟩
    · intro out
      rw [renderInto, renderMembers, if_pos rfl, String.toList_append, hmembers.written,
        hvalue.written]
      simp
    · intro done rest _
      have hclose : Stops ('\x7d' :: rest) := stops_mark (by decide) rest
      simp only [List.cons_append, List.append_assoc, List.nil_append]
      rw [tokensInto_mark rfl (by decide) (by decide), tokensInto_quote,
        tokensInto_mark rfl (by decide) (by decide), hvalue.cut _ _ (hmembers.stops _ hclose),
        hmembers.cut _ _ hclose, tokensInto_mark rfl (by decide) (by decide)]
      simp
    · intro m hm
      rw [List.foldlM_cons, step?_value hm .openObject nofun]
      change (tokens ++ (tokens' ++ _)).foldlM Machine.step?
        { stage := .value, frames := .object true [] key :: m.frames } = _
      rw [List.foldlM_append, hvalue.made _ (.inl rfl)]
      exact hmembers.made key value [] m.frames

lemma exists_spells_literal {value : Json} {c : Char} {word : List Char} {literal : String}
    (hwritten : ∀ out, renderInto out value = out ++ literal)
    (hliteral : literal.toList = c :: word)
    (hbegin : isSpace c = false ∧ c ≠ '"' ∧ mark? c = none) (hword : word.all isWordChar = true)
    (hleaf : leaf? (c :: word) = some value) : ∃ text tokens, Spells value text tokens := by
  obtain ⟨hspace, hquote, hmark⟩ := hbegin
  refine ⟨c :: word, [.leaf value],
    spells_word ?_ hspace hquote hmark (List.all_eq_true.1 hword) hleaf⟩
  intro out
  rw [hwritten, String.toList_append, hliteral]

/-- Every plain value is spelled by its text. -/
lemma exists_spells (h : Plain j) : ∃ text tokens, Spells j text tokens := by
  induction h with
  | null =>
    exact exists_spells_literal (fun out => by rw [renderInto]) rfl ⟨rfl, by decide, rfl⟩ rfl rfl
  | bool b =>
    cases b with
    | false =>
      exact exists_spells_literal (fun out => by rw [renderInto]) rfl ⟨rfl, by decide, rfl⟩ rfl
        rfl
    | true =>
      exact exists_spells_literal (fun out => by rw [renderInto]) rfl ⟨rfl, by decide, rfl⟩ rfl
        rfl
  | int i =>
    refine ⟨_, _, spells_numeral ?_ (numeral_int i)⟩
    intro out
    rw [renderInto, String.toList_append]
  | real hfinite =>
    refine ⟨_, _, spells_numeral ?_ (numeral_real hfinite)⟩
    intro out
    rw [renderInto, if_pos hfinite, String.toList_append]
  | str s => exact ⟨_, _, spells_str s⟩
  | arr h ih => exact exists_spells_arr ih
  | obj h ih => exact exists_spells_obj ih

/-- Reading undoes writing. -/
theorem parse?_render (h : Plain j) : parse? j.render = some j := by
  obtain ⟨text, tokens, hspells⟩ := exists_spells h
  have htext : j.render.toList = text := hspells.written ""
  have htokens : tokens? text = some tokens := by
    have hcut := hspells.cut [] [] nofun
    rw [List.append_nil, List.append_nil] at hcut
    unfold tokens?
    rw [hcut, tokensInto, Option.map_some, List.reverse_reverse]
  have hmade := hspells.made {} (.inl rfl)
  unfold parse?
  rw [htext, htokens, Option.bind_eq_bind, Option.bind_some, hmade]
  rfl

end Values

/-! ### Values that are written -/

section Written

variable {α : Type} {write : α → Json}

@[simp] lemma plain_str (s : String) : Plain (.str s) := .str s

@[simp] lemma plain_bool (b : Bool) : Plain (.bool b) := .bool b

@[simp] lemma plain_nat (n : ℕ) : Plain (.nat n) := .int n

@[simp] lemma plain_ofUInt64 (n : UInt64) : Plain (.ofUInt64 n) := .int n.toNat

@[simp] lemma plain_ofMillis (d : Duration) : Plain (.ofMillis d) := .int d.wireMillis

@[simp] lemma plain_ofFloat (x : Float) : Plain (.ofFloat x) := by
  unfold Json.ofFloat
  split
  · next hfinite => exact .real hfinite
  · exact .null

@[simp] lemma plain_ofTimestamp (t : Timestamp) : Plain (.ofTimestamp t) := .str t.toText

@[simp] lemma plain_ofRunId (id : RunId) : Plain (.ofRunId id) := .str id.toText

@[simp] lemma plain_obj {members : List (String × Json)} :
    Plain (.obj members) ↔ ∀ m ∈ members, Plain m.2 := by
  constructor
  · rintro ⟨⟩
    assumption
  · exact .obj

@[simp] lemma plain_ofDuration (d : Duration) : Plain (.ofDuration d) := by
  simp [Json.ofDuration]

@[simp] lemma plain_ofOption (h : ∀ a, Plain (write a)) (o : Option α) :
    Plain (.ofOption write o) := by
  cases o with
  | none => exact .null
  | some a => exact h a

@[simp] lemma plain_ofList (h : ∀ a, Plain (write a)) (l : List α) : Plain (.ofList write l) := by
  refine .arr ?_
  intro item hitem
  obtain ⟨a, -, rfl⟩ := List.mem_map.1 hitem
  exact h a

/-- What is read back of a value that is written as JSON text. -/
def reread (write : α → Json) (read : Json → Option α) (a : α) : Option α :=
  (Json.parse? (write a).render).bind read

lemma reread_eq {a : α} (h : Plain (write a)) (read : Json → Option α) :
    reread write read a = read (write a) := by
  unfold reread
  rw [parse?_render h, Option.bind_some]

end Written

end LoadTest.Proofs
