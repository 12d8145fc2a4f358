import LoadTest.Toml.Scalar

/-!
# Keys and values in TOML text

A key is a path of names. Entries are put into tables by their paths: no name is given twice, and a
dotted key adds to no table that has a header or is written as a value.
-/

namespace LoadTest.Toml

/-! ### Entries of tables -/

/-- The members of a table. -/
abbrev Members := List (String × Toml)

/-- Replaces the value of a member. -/
def Members.set (members : Members) (name : String) (value : Toml) : Members :=
  members.map fun (key, old) => (key, if key = name then value else old)

/-- Adds an entry under a dotted key. -/
def Members.put (members : Members) : List String → String → Toml → Option Members
  | [], name, value =>
    if members.any fun (key, _) => key = name then none else some (members ++ [(name, value)])
  | step :: path, name, value =>
    match members.lookup step with
    | none => (Members.put [] path name value).map fun inner =>
      members ++ [(step, .table .dotted inner)]
    | some (.table origin inner) =>
      if origin = .dotted || origin = .implied && !path.isEmpty then
        (Members.put inner path name value).map fun inner => members.set step (.table origin inner)
      else none
    | some (.tables items) =>
      match items.getLast? with
      | some last =>
        if path.isEmpty then none
        else (Members.put last path name value).map fun last =>
          members.set step (.tables (items.dropLast ++ [last]))
      | none => none
    | some _ => none

/-! ### Keys -/

def isSpace (c : Char) : Bool := c = ' ' || c = '\t'

def skipSpace (cs : List Char) : List Char := cs.dropWhile isSpace

def isBare (c : Char) : Bool := c.isAlphanum || c = '_' || c = '-'

/-- One name of a key, bare or in quotes. -/
def readName (cs : List Char) : Option (String × List Char) :=
  match cs with
  | '"' :: rest => basic [] rest
  | '\'' :: rest => literal [] rest
  | _ =>
    let name := cs.takeWhile isBare
    if name.isEmpty then none else some (String.ofList name, cs.dropWhile isBare)

/-- The names of a key after its first one. -/
def readPath (done : List String) : Nat → List Char → Option (List String × List Char)
  | 0, _ => none
  | fuel + 1, cs =>
    match skipSpace cs with
    | '.' :: rest =>
      match readName (skipSpace rest) with
      | some (name, rest) => readPath (name :: done) fuel rest
      | none => none
    | rest => some (done.reverse, rest)

/-- Keys and values are nested less deep than this. -/
def deepest : Nat := 80

/-- A key with fewer names than `deepest`, and the blanks after it. -/
def readKey (cs : List Char) : Option (List String × List Char) := do
  let (name, rest) ← readName cs
  readPath [name] (deepest - 1) rest

/-! ### Values -/

/-- Blanks, line ends and comments; a comment goes on to the end of its line. -/
def skipLines (inComment : Bool) : List Char → List Char
  | [] => []
  | '\n' :: rest => skipLines false rest
  | '\r' :: '\n' :: rest => skipLines false rest
  | c :: rest =>
    if inComment then if isPlain c then skipLines true rest else c :: rest
    else if isSpace c then skipLines false rest
    else if c = '#' then skipLines true rest
    else c :: rest

mutual

/-- A value; `depth` more arrays and tables may be opened in it. -/
def readValue : (fuel depth : Nat) → List Char → Option (Toml × List Char)
  | 0, _, _ => none
  | fuel + 1, depth, cs =>
    match cs with
    | '"' :: _ | '\'' :: _ => (readString cs).map fun (s, rest) => (.text s, rest)
    | '[' :: rest =>
      if depth ≤ 1 then none else readItems fuel (depth - 1) [] (skipLines false rest)
    | '\x7b' :: rest =>
      if depth ≤ 1 then none
      else match skipSpace rest with
        | '\x7d' :: rest => some (.table .inline [], rest)
        | rest => readMembers fuel (depth - 1) [] rest
    | 't' :: 'r' :: 'u' :: 'e' :: rest => some (.bool true, rest)
    | 'f' :: 'a' :: 'l' :: 's' :: 'e' :: rest => some (.bool false, rest)
    | _ => readNumber cs

/-- The items of an array up to its closing bracket. A comma may follow the last one. -/
def readItems : (fuel depth : Nat) → List Toml → List Char → Option (Toml × List Char)
  | 0, _, _, _ => none
  | fuel + 1, depth, done, cs =>
    match cs with
    | ']' :: rest => some (.array done.reverse, rest)
    | _ =>
      match readValue fuel depth cs with
      | none => none
      | some (value, rest) =>
        match skipLines false rest with
        | ',' :: rest => readItems fuel depth (value :: done) (skipLines false rest)
        | ']' :: rest => some (.array (value :: done).reverse, rest)
        | _ => none

/-- The entries of a table on one line up to its closing brace. -/
def readMembers : (fuel depth : Nat) → Members → List Char → Option (Toml × List Char)
  | 0, _, _, _ => none
  | fuel + 1, depth, done, cs =>
    match readKey cs with
    | some (path, '=' :: rest) =>
      match readValue fuel depth (skipSpace rest) with
      | none => none
      | some (value, rest) =>
        match Members.put done path.dropLast (path.getLastD "") value with
        | none => none
        | some members =>
          match skipSpace rest with
          | ',' :: rest => readMembers fuel depth members (skipSpace rest)
          | '\x7d' :: rest => some (.table .inline members, rest)
          | _ => none
    | _ => none

end

/-- A value at the front of a text. -/
def readAny (cs : List Char) : Option (Toml × List Char) := readValue (2 * cs.length + 2) deepest cs

end LoadTest.Toml
