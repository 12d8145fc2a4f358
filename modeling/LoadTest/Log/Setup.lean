import LoadTest.Failure
import LoadTest.Log.Filter
import LoadTest.Settings

/-!
# Setting up the log

Lines go to a file, to the console, or to both, each through a filter of its own. There is one log,
and it can be set up once.
-/

namespace LoadTest

/-! ### Directories -/

/-- Why a directory cannot be made. -/
inductive DirectoryFlaw where
  /-- A plain file has its name. -/
  | occupied
  /-- It would lie in a plain file. -/
  | insideFile
  deriving DecidableEq, Repr

namespace DirectoryFlaw

def message : DirectoryFlaw → String
  | .occupied => "File exists (os error 17)"
  | .insideFile => "Not a directory (os error 20)"

end DirectoryFlaw

/-- What keeps a directory from being made in a folder that holds the given plain files. -/
def directoryFlaw? (files : List String) (path : String) : Option DirectoryFlaw :=
  match ((path.splitOn "/").dropWhile (· = ".")).filter (· ≠ "") with
  | [] => none
  | first :: rest =>
    if path.startsWith "/" || !files.contains first then none
    else if rest.isEmpty then some .occupied
    else some .insideFile

/-! ### Outputs -/

/-- A log that has been set up. -/
structure Log where
  /-- What goes to the file, if there is one. -/
  file : Option LogFilter
  /-- What goes to the console, if anything does. -/
  console : Option LogFilter
  deriving DecidableEq, Repr

namespace Log

/-- The log that settings ask for. A filter that cannot be read counts as a level of its own. -/
def ofSettings (s : LoggingSettings) : Log where
  file := s.directory.map fun _ => (LogFilter.parse? s.fileFilter).getD (.ofLevel .info)
  console :=
    if s.consoleEnabled then some ((LogFilter.parse? s.consoleFilter).getD (.ofLevel .warn)) else none

/-- The line that a log starts with. -/
def opening : LogLine :=
  { level := .info, source := "stampede::telemetry::logging", message := "Logging initialized" }

/-- Sets up a log, unless there is one. The directory is made first. -/
def setUp (files : List String) (current : Option Log) (s : LoggingSettings) : Except Failure Log :=
  match s.directory.bind (directoryFlaw? files), current with
  | some flaw, _ => .error (.configuration ("Failed to create log directory: " ++ flaw.message))
  | none, some _ =>
    .error (.configuration ("Failed to install subscriber: " ++
      "a global default trace dispatcher has already been set"))
  | none, none => .ok (ofSettings s)

/-- The lines that an output with a filter receives. -/
def received (filter : Option LogFilter) (lines : List LogLine) : List LogLine :=
  match filter with
  | some f => lines.filter f.logs
  | none => []

def fileLines (l : Log) (lines : List LogLine) : List LogLine := received l.file lines

def consoleLines (l : Log) (lines : List LogLine) : List LogLine := received l.console lines

end Log

end LoadTest
