import LoadTest.Yaml.Token

/-!
# YAML nodes

A document is a node, together with the nodes that references in it stand for. A node may refer to
one that it is a part of.
-/

namespace LoadTest.Yaml

inductive Node where
  | scalar (tag : Option String) (style : Style) (text : String)
  | sequence (items : List Node)
  | mapping (members : List (Node × Node))
  /-- Stands for an anchored node. -/
  | reference (anchor : Nat)
  deriving Inhabited

namespace Node

/-- The node of a place where none is written. -/
def blank : Node := .scalar none .plain ""

end Node

structure Document where
  root : Node
  /-- The anchored nodes by their numbers, latest first. -/
  anchored : List (Nat × Node)

namespace Document

/-- What is left of a text, and what is known of its anchors. -/
structure Parse where
  tokens : List Token
  handles : List (String × String)
  /-- The number of the latest anchor of each name. -/
  names : List (String × Nat) := []
  anchored : List (Nat × Node) := []

namespace Parse

/-- Passes over the first token. -/
def skip (p : Parse) : Parse := { p with tokens := p.tokens.drop 1 }

def nextIs (p : Parse) (t : Token) : Bool := p.tokens.head? = some t

def nextIn (p : Parse) (ts : List Token) : Bool := p.tokens.head?.any ts.contains

/-- Gives an anchor its number: how many names there are before it. -/
def name (p : Parse) : Option String → Option Nat × Parse
  | none => (none, p)
  | some a =>
    let number := p.names.length
    (some number, { p with names := (a, number) :: p.names.filter fun (b, _) => b ≠ a })

/-- Records the node of an anchor. -/
def define (p : Parse) (n : Node) : Option Nat → Parse
  | none => p
  | some number => { p with anchored := (number, n) :: p.anchored }

/-- The anchor and the tag before a node, in either order. -/
def properties (p : Parse) : Option String × Option Tag × Parse :=
  match p.tokens with
  | .anchor a :: .tag t :: tokens => (some a, some t, { p with tokens })
  | .tag t :: .anchor a :: tokens => (some a, some t, { p with tokens })
  | .anchor a :: tokens => (some a, none, { p with tokens })
  | .tag t :: tokens => (none, some t, { p with tokens })
  | _ => (none, none, p)

end Parse

/-- Where a node stands: inside brackets, in a block, or as a part of a mapping in a block, where a
sequence need not be indented further. -/
inductive Place where
  | flow
  | block
  | member
  deriving DecidableEq, Repr

mutual

/-- Reads a node. -/
def node (place : Place) : Nat → Parse → Option (Node × Parse)
  | 0, _ => none
  | fuel + 1, p =>
    match p.tokens with
    | .reference a :: _ => (p.names.lookup a).map fun number => (.reference number, p.skip)
    | _ => do
      let (anchor, tag, p) := p.properties
      let full ← match tag with
        | none => some none
        | some t => (t.resolve? p.handles).map some
      let (number, p) := p.name anchor
      let (n, p) ← match p.tokens with
        | .scalar style text :: _ =>
          some (Node.scalar (if full = some "!" then none else full) style text, p.skip)
        | .flowSequence :: _ => do
          let (items, p) ← flowItems true fuel p.skip
          some (Node.sequence items, p)
        | .flowMapping :: _ => do
          let (members, p) ← flowMembers true fuel p.skip
          some (Node.mapping members, p)
        | t :: _ => do
          if t = .entry && place = .member then
            let (items, p) ← looseItems fuel p
            some (Node.sequence items, p)
          else if t = .blockSequence && place ≠ .flow then
            let (items, p) ← blockItems fuel p.skip
            some (Node.sequence items, p)
          else if t = .blockMapping && place ≠ .flow then
            let (members, p) ← blockMembers fuel p.skip
            some (Node.mapping members, p)
          else if anchor.isSome || tag.isSome then some (Node.scalar full .plain "", p)
          else none
        | [] => if anchor.isSome || tag.isSome then some (Node.scalar full .plain "", p) else none
      return (n, p.define n number)

/-- Reads a node, which is blank if one of the given tokens comes next. -/
def nodeUnless (place : Place) (ends : List Token) : Nat → Parse → Option (Node × Parse)
  | 0, _ => none
  | fuel + 1, p => if p.nextIn ends then some (.blank, p) else node place fuel p

/-- The entries of a sequence in a block of its own. -/
def blockItems : Nat → Parse → Option (List Node × Parse)
  | 0, _ => none
  | fuel + 1, p =>
    if p.nextIs .entry then do
      let (item, p) ← nodeUnless .block [.entry, .blockEnd] fuel p.skip
      let (items, p) ← blockItems fuel p
      return (item :: items, p)
    else if p.nextIs .blockEnd then some ([], p.skip)
    else none

/-- The entries of a sequence that is not indented further than the mapping it is in. -/
def looseItems : Nat → Parse → Option (List Node × Parse)
  | 0, _ => none
  | fuel + 1, p =>
    if p.nextIs .entry then do
      let (item, p) ← nodeUnless .block [.entry, .key, .value, .blockEnd] fuel p.skip
      let (items, p) ← looseItems fuel p
      return (item :: items, p)
    else some ([], p)

/-- The members of a mapping in a block. -/
def blockMembers : Nat → Parse → Option (List (Node × Node) × Parse)
  | 0, _ => none
  | fuel + 1, p =>
    if p.nextIs .key then do
      let ends : List Token := [.key, .value, .blockEnd]
      let (k, p) ← nodeUnless .member ends fuel p.skip
      let (v, p) ← if p.nextIs .value then nodeUnless .member ends fuel p.skip else some (.blank, p)
      let (members, p) ← blockMembers fuel p
      return ((k, v) :: members, p)
    else if p.nextIs .blockEnd then some ([], p.skip)
    else none

/-- The entries of a sequence in brackets. An entry that is a key and its value is a mapping. -/
def flowItems (first : Bool) : Nat → Parse → Option (List Node × Parse)
  | 0, _ => none
  | fuel + 1, p => do
    if p.nextIs .flowSequenceEnd then return ([], p.skip)
    if !first && !p.nextIs .comma then none
    let p := if first then p else p.skip
    if p.nextIs .flowSequenceEnd then return ([], p.skip)
    let (item, p) ←
      if p.nextIs .key then do
        let p := p.skip
        let (k, p) ←
          if p.nextIn [.value, .comma, .flowSequenceEnd] then some (.blank, p.skip)
          else node .flow fuel p
        let (v, p) ←
          if p.nextIs .value then nodeUnless .flow [.comma, .flowSequenceEnd] fuel p.skip
          else some (.blank, p)
        some (Node.mapping [(k, v)], p)
      else node .flow fuel p
    let (items, p) ← flowItems false fuel p
    return (item :: items, p)

/-- The members of a mapping in braces. -/
def flowMembers (first : Bool) : Nat → Parse → Option (List (Node × Node) × Parse)
  | 0, _ => none
  | fuel + 1, p => do
    if p.nextIs .flowMappingEnd then return ([], p.skip)
    if !first && !p.nextIs .comma then none
    let p := if first then p else p.skip
    if p.nextIs .flowMappingEnd then return ([], p.skip)
    let (member, p) ←
      if p.nextIs .key then do
        let (k, p) ← nodeUnless .flow [.value, .comma, .flowMappingEnd] fuel p.skip
        let (v, p) ←
          if p.nextIs .value then nodeUnless .flow [.comma, .flowMappingEnd] fuel p.skip
          else some (.blank, p)
        some ((k, v), p)
      else do
        let (k, p) ← node .flow fuel p
        some ((k, Node.blank), p)
    let (members, p) ← flowMembers false fuel p
    return (member :: members, p)

end

/-- Reads the directives before a document. At most one may give a version, which has to be 1.1 or
1.2, and no handle may be declared twice. -/
def directives (versioned : Bool) (handles : List (String × String)) :
    List Token → Option (List (String × String) × List Token)
  | .version major minor :: rest =>
    if versioned || major ≠ 1 || (minor ≠ 1 && minor ≠ 2) then none
    else directives true handles rest
  | .handle name meaning :: rest =>
    if (handles.lookup name).isSome then none
    else directives versioned ((name, meaning) :: handles) rest
  | rest => some (handles, rest)

/-- How many calls the nodes of a list of tokens may nest. -/
def fuelFor (tokens : List Token) : Nat := 4 * tokens.length + 4

/-- Reads the one document of a stream. A stream without tokens holds a blank one. -/
def ofTokens? (tokens : List Token) : Option Document := do
  if tokens.isEmpty then return { root := .blank, anchored := [] }
  let (handles, rest) ← directives false [] tokens
  let handles := handles ++ Tag.defaultHandles
  let (root, p) ← match rest with
    | .documentStart :: rest =>
      let p : Parse := { tokens := rest, handles }
      if rest.isEmpty || p.nextIn [.documentStart, .documentEnd] ||
          p.tokens.head?.any (fun | .version .. => true | .handle .. => true | _ => false) then
        some (Node.blank, p)
      else node .block (fuelFor rest) p
    | rest =>
      if rest.length = tokens.length then
        node .block (fuelFor rest) { tokens := rest, handles }
      else none
  if p.tokens.all (· = .documentEnd) then some { root, anchored := p.anchored } else none

/-- Reads the one document of a text. -/
def parse? (text : String) : Option Document := (Token.scan? text).bind ofTokens?

end Document

end LoadTest.Yaml
