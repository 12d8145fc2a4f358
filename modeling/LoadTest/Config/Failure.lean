import LoadTest.Failure

/-!
# Failures of the configuration
-/

namespace LoadTest

/-- Why a configuration could not be loaded or may not be used. -/
inductive ConfigFailure where
  /-- An environment variable does not hold a value of its setting. -/
  | environment (reason : String)
  | file (reason : String)
  /-- A file does not hold a configuration in the format that its name promises. -/
  | malformed (format : String)
  | validation (reason : String)
  | io (reason : String)
  deriving DecidableEq, Repr

namespace ConfigFailure

def message : ConfigFailure → String
  | .environment reason => "Environment variable parsing error: " ++ reason
  | .file reason => "File parsing error: " ++ reason
  | .malformed format => "File parsing error: not a configuration in " ++ format
  | .validation reason => "Validation error: " ++ reason
  | .io reason => "IO error: " ++ reason

def toFailure (f : ConfigFailure) : Failure := .configuration f.message

end ConfigFailure

end LoadTest
