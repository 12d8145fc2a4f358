import LoadTest.Toml.Value

/-!
# TOML documents

A document is a sequence of lines: entries, and headers of tables that the entries after them belong
to. A table has one header at most, and a repeated header adds a table to a list.
-/

namespace LoadTest.Toml

/-- Opens the table of a header. -/
def Members.openTable (members : Members) : List String → Option Members
  | [] => none
  | [name] =>
    match members.lookup name with
    | none => some (members ++ [(name, .table .header [])])
    | some (.table .implied inner) => some (members.set name (.table .header inner))
    | some _ => none
  | step :: path =>
    match members.lookup step with
    | none => (Members.openTable [] path).map fun inner =>
      members ++ [(step, .table .implied inner)]
    | some (.table origin inner) =>
      if origin = .inline then none
      else (Members.openTable inner path).map fun inner => members.set step (.table origin inner)
    | some (.tables items) =>
      match items.getLast? with
      | some last => (Members.openTable last path).map fun last =>
        members.set step (.tables (items.dropLast ++ [last]))
      | none => none
    | some _ => none

/-- Adds a table to the list of a repeated header. -/
def Members.openItem (members : Members) : List String → Option Members
  | [] => none
  | [name] =>
    match members.lookup name with
    | none => some (members ++ [(name, .tables [[]])])
    | some (.tables items) => some (members.set name (.tables (items ++ [[]])))
    | some _ => none
  | step :: path =>
    match members.lookup step with
    | none => (Members.openItem [] path).map fun inner =>
      members ++ [(step, .table .implied inner)]
    | some (.table origin inner) =>
      if origin = .inline then none
      else (Members.openItem inner path).map fun inner => members.set step (.table origin inner)
    | some (.tables items) =>
      match items.getLast? with
      | some last => (Members.openItem last path).map fun last =>
        members.set step (.tables (items.dropLast ++ [last]))
      | none => none
    | some _ => none

/-- Changes the table that a header opened. -/
def Members.within (members : Members) (change : Members → Option Members) :
    List String → Option Members
  | [] => change members
  | step :: path =>
    match members.lookup step with
    | some (.table origin inner) =>
      (Members.within inner change path).map fun inner => members.set step (.table origin inner)
    | some (.tables items) =>
      match items.getLast? with
      | some last => (Members.within last change path).map fun last =>
        members.set step (.tables (items.dropLast ++ [last]))
      | none => none
    | _ => none

/-- A document as far as it has been read. -/
structure Draft where
  members : Members := []
  /-- The header that entries belong to. -/
  header : List String := []

/-- The rest after blanks, a comment and the end of the line. -/
def endLine (cs : List Char) : Option (List Char) :=
  let rest := match skipSpace cs with
    | '#' :: rest => rest.dropWhile isPlain
    | rest => rest
  match rest with
  | [] => some []
  | '\n' :: rest | '\r' :: '\n' :: rest => some rest
  | _ => none

/-- Reads the closing mark of a header and the rest of its line. -/
def endHeader (closing : List Char) (cs : List Char) : Option (List Char) :=
  if closing.isPrefixOf cs then endLine (cs.drop closing.length) else none

/-- Reads an entry or a header; the text does not start with a blank. -/
def readLine (draft : Draft) (cs : List Char) : Option (Draft × List Char) :=
  match cs with
  | '[' :: '[' :: rest => do
    let (path, rest) ← readKey (skipSpace rest)
    let rest ← endHeader [']', ']'] rest
    return ({ members := ← draft.members.openItem path, header := path }, rest)
  | '[' :: rest => do
    let (path, rest) ← readKey (skipSpace rest)
    let rest ← endHeader [']'] rest
    return ({ members := ← draft.members.openTable path, header := path }, rest)
  | _ => do
    let (path, rest) ← readKey cs
    let rest ← mark? '=' rest
    let (value, rest) ← readAny (skipSpace rest)
    let rest ← endLine rest
    let put (members : Members) := members.put path.dropLast (path.getLastD "") value
    return ({ draft with members := ← draft.members.within put draft.header }, rest)

/-- Reads line after line. -/
def readLines (draft : Draft) : Nat → List Char → Option Draft
  | 0, _ => none
  | fuel + 1, cs =>
    match skipSpace cs with
    | [] => some draft
    | '#' :: _ | '\n' :: _ | '\r' :: _ =>
      match endLine cs with
      | some rest => readLines draft fuel rest
      | none => none
    | rest =>
      match readLine draft rest with
      | some (draft, rest) => readLines draft fuel rest
      | none => none

/-- The table that a document spells out; a byte order mark may stand before it. -/
def parse? (text : String) : Option Toml :=
  let cs := match text.toList with
    | '\ufeff' :: rest => rest
    | cs => cs
  (readLines {} (cs.length + 1) cs).map fun draft => .table .header draft.members

end LoadTest.Toml
