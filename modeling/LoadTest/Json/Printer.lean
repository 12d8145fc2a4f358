import LoadTest.Json.Basic
import LoadTest.Number.Decimal

/-!
# Writing JSON text

One line without blanks. Strings escape the quote, the backslash and control characters; floats are
written with the fewest digits that read back.
-/

namespace LoadTest.Json

/-- A number below 16 as a hexadecimal digit. -/
def hexDigit (n : Nat) : Char := (Nat.toDigits 16 n).headD '0'

def escape (c : Char) : String :=
  match c with
  | '"' => "\\\""
  | '\\' => "\\\\"
  | '\n' => "\\n"
  | '\r' => "\\r"
  | '\t' => "\\t"
  | '\x08' => "\\b"
  | '\x0c' => "\\f"
  | c =>
    if c.toNat < 0x20 then
      "\\u00" ++ String.ofList [hexDigit (c.toNat / 16), hexDigit (c.toNat % 16)]
    else c.toString

def quote (s : String) : String := "\"" ++ s.toList.foldl (fun out c => out ++ escape c) "" ++ "\""

/-- A float with a point, so that it does not read back as an integer. -/
def realText (x : Float) : String :=
  let text := floatText x
  if text.contains '.' then text else text ++ ".0"

mutual

/-- The text of a value, behind `out`. -/
def renderInto (out : String) : Json → String
  | .null => out ++ "null"
  | .bool b => out ++ (if b then "true" else "false")
  | .int i => out ++ toString i
  | .real x => out ++ (if x.isFinite then realText x else "null")
  | .str s => out ++ quote s
  | .unreadable => out ++ "null"
  | .arr items => renderItems (out ++ "[") true items ++ "]"
  | .obj members => renderMembers (out ++ "\x7b") true members ++ "\x7d"

def renderItems (out : String) (first : Bool) : List Json → String
  | [] => out
  | item :: rest => renderItems (renderInto (if first then out else out ++ ",") item) false rest

def renderMembers (out : String) (first : Bool) : List (String × Json) → String
  | [] => out
  | (name, value) :: rest =>
    let out := (if first then out else out ++ ",") ++ quote name ++ ":"
    renderMembers (renderInto out value) false rest

end

def render (j : Json) : String := renderInto "" j

end LoadTest.Json
