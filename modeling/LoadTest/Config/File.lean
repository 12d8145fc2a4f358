import LoadTest.Config.Basic
import LoadTest.Config.Failure
import LoadTest.Json.Reader
import LoadTest.Toml.Document
import LoadTest.Yaml.Record

/-!
# Configuration files

The extension of a file name decides on the format. A file is read before its name is looked at, so
that of two faults the one in reading counts.
-/

namespace LoadTest

inductive FileFormat where
  | toml
  | yaml
  | json
  deriving DecidableEq, Repr

namespace FileFormat

def title : FileFormat → String
  | .toml => "TOML"
  | .yaml => "YAML"
  | .json => "JSON"

/-- The extensions of files that can be read. -/
def extensions : List (String × FileFormat) :=
  [("toml", .toml), ("yaml", .yaml), ("yml", .yaml), ("json", .json)]

/-- What follows the last point of a file name, unless nothing precedes the point. -/
def extension? (name : String) : Option String :=
  match (name.splitOn ".").reverse with
  | last :: before :: rest => if rest.isEmpty && before.isEmpty then none else some last
  | _ => none

def ofName? (name : String) : Option FileFormat := (extension? name).bind fun e => extensions.lookup e

end FileFormat

namespace Config

/-- The configuration that a text holds. -/
def parse? (format : FileFormat) (text : String) : Option Config :=
  match format with
  | .toml => (Toml.parse? text).bind (decode? Toml.dialect)
  | .yaml => (Yaml.Document.parse? text).bind fun d => decode? Yaml.Document.dialect d.view
  | .json => (Json.parse? text).bind (decode? Json.dialect)

/-- The text of a file with the given contents, if there is one. -/
def fileText (contents : Option ByteArray) : Except ConfigFailure String :=
  match contents with
  | none => .error (.io "No such file or directory (os error 2)")
  | some bytes => match String.fromUTF8? bytes with
    | none => .error (.io "stream did not contain valid UTF-8")
    | some text => .ok text

/-- Reads a configuration file of the given name and contents. -/
def load (name : String) (contents : Option ByteArray) : Except ConfigFailure Config := do
  let text ← fileText contents
  match FileFormat.ofName? name with
  | none => .error (.file "Unsupported file format. Use .toml, .yaml, .yml, or .json")
  | some format =>
    match parse? format text with
    | some c => .ok c
    | none => .error (.malformed format.title)

end Config

end LoadTest
