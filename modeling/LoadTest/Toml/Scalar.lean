import LoadTest.Number.Decimal
import LoadTest.RunId
import LoadTest.Time.Calendar
import LoadTest.Toml.Basic

/-!
# Scalars in TOML text

Strings of the four kinds, numbers, and dates and times. Each reader takes what it can from the
front of a text and gives the rest.
-/

namespace LoadTest.Toml

/-! ### Strings -/

/-- Tabs and printable characters; no other control character may stand in a line. -/
def isPlain (c : Char) : Bool := c = '\t' || (0x20 ≤ c.toNat && c.toNat ≠ 0x7f)

/-- The character with the code that some hexadecimal digits spell. -/
def ofHex? (digits : List Char) : Option Char := do
  let values ← digits.mapM RunId.hexValue?
  let code := values.foldl (fun n v => n * 16 + v) 0
  if code.isValidChar then some (Char.ofNat code) else none

def escaped? : Char → Option Char
  | '"' => some '"'
  | '\\' => some '\\'
  | 'b' => some '\x08'
  | 'f' => some '\x0c'
  | 'n' => some '\n'
  | 'r' => some '\r'
  | 't' => some '\t'
  | _ => none

/-- A string after its opening quote; `done` is what was read of it, in reverse. -/
def basic (done : List Char) : List Char → Option (String × List Char)
  | [] => none
  | '"' :: rest => some (String.ofList done.reverse, rest)
  | '\\' :: 'u' :: a :: b :: c :: d :: rest =>
    match ofHex? [a, b, c, d] with
    | some meant => basic (meant :: done) rest
    | none => none
  | '\\' :: 'U' :: a :: b :: c :: d :: e :: f :: g :: h :: rest =>
    match ofHex? [a, b, c, d, e, f, g, h] with
    | some meant => basic (meant :: done) rest
    | none => none
  | '\\' :: c :: rest =>
    match escaped? c with
    | some meant => basic (meant :: done) rest
    | none => none
  | c :: rest => if isPlain c then basic (c :: done) rest else none

/-- A string without escapes after its opening apostrophe. -/
def literal (done : List Char) : List Char → Option (String × List Char)
  | [] => none
  | '\'' :: rest => some (String.ofList done.reverse, rest)
  | c :: rest => if isPlain c then literal (c :: done) rest else none

/-- Whether only blanks stand before the end of the line. -/
def endsLine (cs : List Char) : Bool :=
  match cs.dropWhile fun c => c = ' ' || c = '\t' with
  | '\n' :: _ | '\r' :: '\n' :: _ => true
  | _ => false

/-- A string of several lines after its opening quotes. While `trimming`, blanks and line ends are
passed over. Up to two quotes may stand before the closing ones. -/
def multiBasic (trimming : Bool) (done : List Char) : List Char → Option (String × List Char)
  | [] => none
  | '"' :: '"' :: '"' :: '"' :: '"' :: rest =>
    some (String.ofList ('"' :: '"' :: done).reverse, rest)
  | '"' :: '"' :: '"' :: '"' :: rest => some (String.ofList ('"' :: done).reverse, rest)
  | '"' :: '"' :: '"' :: rest => some (String.ofList done.reverse, rest)
  | '\\' :: 'u' :: a :: b :: c :: d :: rest =>
    match ofHex? [a, b, c, d] with
    | some meant => multiBasic false (meant :: done) rest
    | none => none
  | '\\' :: 'U' :: a :: b :: c :: d :: e :: f :: g :: h :: rest =>
    match ofHex? [a, b, c, d, e, f, g, h] with
    | some meant => multiBasic false (meant :: done) rest
    | none => none
  | '\\' :: c :: rest =>
    if endsLine (c :: rest) then multiBasic true done (c :: rest)
    else match escaped? c with
      | some meant => multiBasic false (meant :: done) rest
      | none => none
  | '\r' :: '\n' :: rest => multiBasic trimming (if trimming then done else '\n' :: done) rest
  | c :: rest =>
    if trimming && (c = ' ' || c = '\t' || c = '\n') then multiBasic true done rest
    else if isPlain c || c = '\n' then multiBasic false (c :: done) rest
    else none

/-- A string of several lines without escapes after its opening apostrophes. -/
def multiLiteral (done : List Char) : List Char → Option (String × List Char)
  | [] => none
  | '\'' :: '\'' :: '\'' :: '\'' :: '\'' :: rest =>
    some (String.ofList ('\'' :: '\'' :: done).reverse, rest)
  | '\'' :: '\'' :: '\'' :: '\'' :: rest => some (String.ofList ('\'' :: done).reverse, rest)
  | '\'' :: '\'' :: '\'' :: rest => some (String.ofList done.reverse, rest)
  | '\r' :: '\n' :: rest => multiLiteral ('\n' :: done) rest
  | c :: rest => if isPlain c || c = '\n' then multiLiteral (c :: done) rest else none

/-- A line end right after the opening quotes does not count. -/
def dropNewline : List Char → List Char
  | '\n' :: rest | '\r' :: '\n' :: rest => rest
  | cs => cs

/-- A string of any kind. -/
def readString : List Char → Option (String × List Char)
  | '"' :: '"' :: '"' :: rest => multiBasic false [] (dropNewline rest)
  | '"' :: rest => basic [] rest
  | '\'' :: '\'' :: '\'' :: rest => multiLiteral [] (dropNewline rest)
  | '\'' :: rest => literal [] rest
  | _ => none

/-! ### Numbers -/

/-- Digits at the front of a text, without the underscores between them. -/
def takeDigits (isDigit : Char → Bool) (started : Bool) : List Char → List Char × List Char
  | [] => ([], [])
  | c :: rest =>
    if isDigit c then
      let (digits, rest) := takeDigits isDigit true rest
      (c :: digits, rest)
    else if c = '_' && started && rest.head?.any isDigit then takeDigits isDigit true rest
    else ([], c :: rest)

def takeSign : List Char → Bool × List Char
  | '-' :: rest => (true, rest)
  | '+' :: rest => (false, rest)
  | cs => (false, cs)

/-- The digits of a decimal number; a zero in front stands alone. -/
def decimal? (cs : List Char) : Option (List Char × List Char) :=
  match cs with
  | '0' :: rest => some (['0'], rest)
  | _ =>
    let (digits, rest) := takeDigits Char.isDigit false cs
    if digits.isEmpty then none else some (digits, rest)

/-- An exponent; without one the text stays as it is. -/
def takeExponent (cs : List Char) : Option Int × List Char :=
  let attempt (rest : List Char) : Option Int × List Char :=
    let (negative, rest) := takeSign rest
    let (digits, rest) := takeDigits Char.isDigit false rest
    if digits.isEmpty then (none, cs)
    else (some (if negative then -(Decimal.ofDigits digits : Int) else Decimal.ofDigits digits), rest)
  match cs with
  | 'e' :: rest | 'E' :: rest => attempt rest
  | _ => (none, cs)

/-- A float: it has a fraction or an exponent, and it does not exceed every finite float. -/
def readFloat (cs : List Char) : Option (Toml × List Char) := do
  let (negative, cs) := takeSign cs
  match cs with
  | 'i' :: 'n' :: 'f' :: rest =>
    some (.float (if negative then -Decimal.infinity else Decimal.infinity), rest)
  | 'n' :: 'a' :: 'n' :: rest =>
    let nan := Float.ofBits 0x7ff8000000000000
    some (.float (if negative then -nan else nan), rest)
  | _ =>
    let (whole, rest) ← decimal? cs
    let (fraction, rest) := match rest with
      | '.' :: after =>
        let (digits, beyond) := takeDigits Char.isDigit false after
        if digits.isEmpty then ([], rest) else (digits, beyond)
      | _ => ([], rest)
    let (exponent, rest) := takeExponent rest
    if fraction.isEmpty && exponent.isNone then none
    else
      let x := (Decimal.ofParts negative whole fraction (exponent.getD 0)).toFloat
      if x == Decimal.infinity then none else some (.float x, rest)

/-- A whole number in a base other than ten. -/
def based? (base : Nat) (cs : List Char) : Option (Int × List Char) :=
  let isDigit (c : Char) : Bool := (RunId.hexValue? c).any (· < base)
  let (digits, rest) := takeDigits isDigit false cs
  if digits.isEmpty then none
  else some ((digits.foldl (fun n c => n * base + (RunId.hexValue? c).getD 0) 0 : Nat), rest)

/-- A whole number of 64 bits with a sign. -/
def readInteger (cs : List Char) : Option (Toml × List Char) := do
  let (n, rest) ← match cs with
    | '0' :: 'x' :: rest => based? 16 rest
    | '0' :: 'o' :: rest => based? 8 rest
    | '0' :: 'b' :: rest => based? 2 rest
    | _ =>
      let (negative, cs) := takeSign cs
      (decimal? cs).map fun (digits, rest) =>
        (if negative then -(Decimal.ofDigits digits : Int) else Decimal.ofDigits digits, rest)
  if -9223372036854775808 ≤ n && n < 9223372036854775808 then some (.int n, rest) else none

/-! ### Dates and times -/

/-- Exactly `width` digits. -/
def fixed? (width : Nat) (cs : List Char) : Option (Nat × List Char) :=
  let digits := cs.take width
  if digits.length = width && digits.all Char.isDigit then
    some (Decimal.ofDigits digits, cs.drop width)
  else none

def mark? (mark : Char) : List Char → Option (List Char)
  | c :: rest => if c = mark then some rest else none
  | [] => none

/-- A year, a month and a day. -/
def date? (cs : List Char) : Option (List Char) := do
  let (year, cs) ← fixed? 4 cs
  let (month, cs) ← fixed? 2 (← mark? '-' cs)
  let (day, cs) ← fixed? 2 (← mark? '-' cs)
  let date : Date := { year, month, day }
  if date.isValid then some cs else none

/-- An hour, a minute and a second, with or without a fraction. -/
def time? (cs : List Char) : Option (List Char) := do
  let (hour, cs) ← fixed? 2 cs
  let (minute, cs) ← fixed? 2 (← mark? ':' cs)
  let (second, cs) ← fixed? 2 (← mark? ':' cs)
  if 23 < hour || 59 < minute || 60 < second then none
  else match cs with
    | '.' :: c :: rest => some (if c.isDigit then rest.dropWhile Char.isDigit else cs)
    | _ => some cs

/-- An offset from UTC; without one the text stays as it is. -/
def dropOffset (cs : List Char) : List Char :=
  let signed (rest : List Char) : Option (List Char) := do
    let (hour, rest) ← fixed? 2 rest
    let (minute, rest) ← fixed? 2 (← mark? ':' rest)
    if 23 < hour || 59 < minute then none else some rest
  match cs with
  | 'Z' :: rest | 'z' :: rest => rest
  | '+' :: rest | '-' :: rest => (signed rest).getD cs
  | _ => cs

/-- A date, a time, or a date with a time. -/
def readMoment (cs : List Char) : Option (Toml × List Char) :=
  match date? cs with
  | some rest =>
    let withTime := match rest with
      | 'T' :: after | 't' :: after | ' ' :: after => (time? after).map dropOffset
      | _ => none
    some (.moment, withTime.getD rest)
  | none => (time? cs).map fun rest => (.moment, rest)

/-- A number, a date or a time. -/
def readNumber (cs : List Char) : Option (Toml × List Char) :=
  readMoment cs <|> readFloat cs <|> readInteger cs

end LoadTest.Toml
