import LoadTest.Json.Basic
import LoadTest.Number.Decimal
import LoadTest.RunId

/-!
# Reading JSON text

A text is cut into tokens, and a machine with a stack of unfinished arrays and objects takes one
token at a time. The reading is strict: no comments, no trailing commas, no control characters in
strings, no leading zeros.
-/

namespace LoadTest.Json

inductive Token where
  | openArray
  | closeArray
  | openObject
  | closeObject
  | comma
  | colon
  /-- A string, without text if it holds half of a surrogate pair. -/
  | text (value : Option String)
  /-- A number or one of the words `null`, `true` and `false`. -/
  | leaf (value : Json)
  deriving Inhabited

/-! ### Numerals -/

/-- Digits at the front of a text, and what follows them. -/
def splitDigits (cs : List Char) : List Char × List Char :=
  (cs.takeWhile Char.isDigit, cs.dropWhile Char.isDigit)

/-- The exponent that ends a numeral. -/
def exponent? (cs : List Char) : Option Int :=
  let (negative, digits) := match cs with
    | '-' :: rest => (true, rest)
    | '+' :: rest => (false, rest)
    | rest => (false, rest)
  if digits.isEmpty || !digits.all Char.isDigit then none
  else some (if negative then -(Decimal.ofDigits digits : Int) else Decimal.ofDigits digits)

/-- Fraction and exponent of a numeral: the digits after the point and the power of ten. -/
def tail? (cs : List Char) : Option (List Char × Int) := do
  let (fraction, rest) ← match cs with
    | '.' :: rest =>
      let (digits, rest) := splitDigits rest
      if digits.isEmpty then none else some (digits, rest)
    | rest => some ([], rest)
  match rest with
  | [] => some (fraction, 0)
  | 'e' :: rest | 'E' :: rest => (exponent? rest).map fun e => (fraction, e)
  | _ => none

/-- A number after its sign. Without point and exponent it is an integer, the negative zero apart. -/
def unsigned? (negative : Bool) (cs : List Char) : Option Json :=
  let (whole, rest) := splitDigits cs
  if whole.isEmpty || (1 < whole.length && whole.head? = some '0') then none
  else if rest.isEmpty && !(negative && whole = ['0']) then
    let n : Int := Decimal.ofDigits whole
    some (.int (if negative then -n else n))
  else
    (tail? rest).map fun (fraction, e) => .real (Decimal.ofParts negative whole fraction e).toFloat

def number? : List Char → Option Json
  | '-' :: rest => unsigned? true rest
  | cs => unsigned? false cs

def leaf? (cs : List Char) : Option Json :=
  if cs = "null".toList then some .null
  else if cs = "true".toList then some (.bool true)
  else if cs = "false".toList then some (.bool false)
  else number? cs

/-! ### Strings -/

/-- Cuts a text at the quote that ends a string; `done` is the part before it, in reverse. Fails on
a control character. -/
def splitString (done : List Char) : List Char → Option (List Char × List Char)
  | [] => none
  | '"' :: rest => some (done.reverse, rest)
  | '\\' :: c :: rest => splitString (c :: '\\' :: done) rest
  | c :: rest => if c.toNat < 0x20 then none else splitString (c :: done) rest

theorem length_of_splitString {done cs body rest : List Char}
    (h : splitString done cs = some (body, rest)) : rest.length < cs.length := by
  fun_induction splitString done cs with
  | case1 => simp at h
  | case2 done rest' => simp_all
  | case3 done c rest' ih =>
    have := ih h
    simp only [List.length_cons]
    omega
  | case4 => simp at h
  | case5 done c rest' _ _ _ ih =>
    have := ih h
    simp only [List.length_cons]
    omega

def fourHex? : List Char → Option Nat
  | [a, b, c, d] => do
    let digits ← [a, b, c, d].mapM RunId.hexValue?
    some (digits.foldl (fun n v => n * 16 + v) 0)
  | _ => none

def escaped? : Char → Option Char
  | '"' => some '"'
  | '\\' => some '\\'
  | '/' => some '/'
  | 'b' => some '\x08'
  | 'f' => some '\x0c'
  | 'n' => some '\n'
  | 'r' => some '\r'
  | 't' => some '\t'
  | _ => none

/-- One character of a string, or one half of a surrogate pair. -/
inductive Unit16 where
  | char (c : Char)
  | high (code : Nat)
  | low (code : Nat)

def Unit16.ofCode (code : Nat) : Unit16 :=
  if 0xd800 ≤ code && code < 0xdc00 then .high code
  else if 0xdc00 ≤ code && code < 0xe000 then .low code
  else .char (Char.ofNat code)

/-- The characters of a string with its escapes resolved, put in front of `done` in reverse. -/
def unitsInto (done : List Unit16) : List Char → Option (List Unit16)
  | [] => some done
  | '\\' :: 'u' :: a :: b :: c :: d :: rest =>
    match fourHex? [a, b, c, d] with
    | some code => unitsInto (Unit16.ofCode code :: done) rest
    | none => none
  | '\\' :: c :: rest =>
    match escaped? c with
    | some meant => unitsInto (.char meant :: done) rest
    | none => none
  | c :: rest => unitsInto (.char c :: done) rest

/-- Joins the halves of surrogate pairs of a string given in reverse; fails on a half that stands
alone. -/
def joinInto (done : List Char) : List Unit16 → Option (List Char)
  | [] => some done
  | .char c :: rest => joinInto (c :: done) rest
  | .low l :: .high h :: rest =>
    joinInto (Char.ofNat (0x10000 + (h - 0xd800) * 0x400 + (l - 0xdc00)) :: done) rest
  | _ => none

/-- The token of a string's body. -/
def stringToken? (body : List Char) : Option Token :=
  (unitsInto [] body).map fun units => .text ((joinInto [] units).map String.ofList)

/-! ### Tokens -/

def isSpace (c : Char) : Bool := c = ' ' || c = '\n' || c = '\t' || c = '\r'

def isWordChar (c : Char) : Bool := c.isAlphanum || c = '+' || c = '-' || c = '.'

def mark? : Char → Option Token
  | '[' => some .openArray
  | ']' => some .closeArray
  | '\x7b' => some .openObject
  | '\x7d' => some .closeObject
  | ',' => some .comma
  | ':' => some .colon
  | _ => none

/-- The tokens of a text, put in front of `done` in reverse. -/
def tokensInto (done : List Token) : List Char → Option (List Token)
  | [] => some done
  | c :: rest =>
    if isSpace c then tokensInto done rest
    else if c = '"' then
      match h : splitString [] rest with
      | some (body, after) =>
        have := length_of_splitString h
        match stringToken? body with
        | some token => tokensInto (token :: done) after
        | none => none
      | none => none
    else match mark? c with
      | some token => tokensInto (token :: done) rest
      | none =>
        match leaf? (c :: rest.takeWhile isWordChar) with
        | some value =>
          have := (List.dropWhile_sublist (p := isWordChar) (l := rest)).length_le
          tokensInto (.leaf value :: done) (rest.dropWhile isWordChar)
        | none => none
termination_by cs => cs.length
decreasing_by all_goals (simp only [List.length_cons]; omega)

def tokens? (cs : List Char) : Option (List Token) := (tokensInto [] cs).map List.reverse

/-! ### Values -/

/-- An array or object whose end has not been read. Entries are kept last first. -/
inductive Frame where
  | array (items : List Json)
  /-- `readable` tells whether all names so far have a text; `name` waits for its value. -/
  | object (readable : Bool) (members : List (String × Json)) (name : String)

/-- What may come next. -/
inductive Stage where
  | value
  | valueOrClose
  | name (readable : Bool) (members : List (String × Json))
  | nameOrClose
  | colon
  /-- A value has just ended. -/
  | after (value : Json)

structure Machine where
  stage : Stage := .value
  frames : List Frame := []

def closeObject (readable : Bool) (members : List (String × Json)) : Json :=
  if readable then .obj members.reverse else .unreadable

namespace Machine

/-- A value starts or stands complete. -/
def value? (m : Machine) (token : Token) : Option Machine :=
  match token with
  | .leaf v => some { m with stage := .after v }
  | .text s => some { m with stage := .after (match s with | some s => .str s | none => .unreadable) }
  | .openArray => some { stage := .valueOrClose, frames := .array [] :: m.frames }
  | .openObject => some { stage := .nameOrClose, frames := m.frames }
  | _ => none

def name? (m : Machine) (readable : Bool) (members : List (String × Json)) (token : Token) :
    Option Machine :=
  match token with
  | .text s => some
    { stage := .colon,
      frames := .object (readable && s.isSome) members (s.getD "") :: m.frames }
  | _ => none

def step? (m : Machine) (token : Token) : Option Machine :=
  match m.stage, token with
  | .value, _ => m.value? token
  | .valueOrClose, .closeArray => some { stage := .after (.arr []), frames := m.frames.drop 1 }
  | .valueOrClose, _ => m.value? token
  | .nameOrClose, .closeObject => some { m with stage := .after (.obj []) }
  | .nameOrClose, _ => m.name? true [] token
  | .name readable members, _ => m.name? readable members token
  | .colon, .colon => some { m with stage := .value }
  | .colon, _ => none
  | .after v, _ =>
    match m.frames, token with
    | .array items :: frames, .comma => some { stage := .value, frames := .array (v :: items) :: frames }
    | .array items :: frames, .closeArray =>
      some { stage := .after (.arr (v :: items).reverse), frames }
    | .object readable members name :: frames, .comma =>
      some { stage := .name readable ((name, v) :: members), frames }
    | .object readable members name :: frames, .closeObject =>
      some { stage := .after (closeObject readable ((name, v) :: members)), frames }
    | _, _ => none

end Machine

/-- The value that a text spells, with blanks around it at most. -/
def parse? (text : String) : Option Json := do
  let tokens ← tokens? text.toList
  let machine ← tokens.foldlM Machine.step? {}
  match machine.stage, machine.frames with
  | .after v, [] => some v
  | _, _ => none

end LoadTest.Json
