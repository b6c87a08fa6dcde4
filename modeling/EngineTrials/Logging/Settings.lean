import EngineTrials.FileTree.System
import EngineTrials.Logging.Filter

/-!
# Log settings

How log records are filtered and shown, and what can go wrong when logging is set up: a malformed
filter, or a log directory that cannot be made.
-/
namespace EngineTrials.Logging
open Text

inductive Format
  | pretty
  | compact
  | json
deriving DecidableEq, Inhabited

namespace Format

def name : Format → String
  | pretty => "pretty"
  | compact => "compact"
  | json => "json"

/-- The form in which names are compared: without blanks around and in small letters. -/
def canonical (s : String) : String :=
  String.ofList ((trimBlank s.toList).map lowerAscii)

def ofName? (s : String) : Option Format :=
  [pretty, compact, json].find? fun f => f.name == canonical s

def unknownMessage (s : String) : String :=
  "unknown log format '" ++ canonical s ++ "'"

end Format

structure Settings where
  filter : String := "info"
  format : Format := .compact
  /-- Write to the error stream rather than to standard output. -/
  toStderr : Bool := false
  ansi : Bool := true
  directory : Option Path := none
deriving DecidableEq, Inhabited

namespace Settings

def filterVariable : String := "STAGEBENCH_LOG"

def formatVariable : String := "STAGEBENCH_LOG_FORMAT"

/-- The filter of the environment unless it is blank, and its format if one has that name. -/
def ofEnvironment (environment : String → Option String) (defaultFilter : String) : Settings :=
  let filter := match environment filterVariable with
    | some value => if isAllBlank value then defaultFilter else value
    | none => defaultFilter
  { filter, format := ((environment formatVariable).bind Format.ofName?).getD .compact }

end Settings

inductive SetupError
  | invalidFilter (filter : String) (problem : FilterProblem)
  | directory (path : Path) (reason : String)
deriving DecidableEq, Inhabited

namespace SetupError

def message : SetupError → String
  | invalidFilter filter problem => "Invalid log filter '" ++ filter ++ "': " ++ problem.message
  | directory path reason => "Failed to open log directory " ++ path.text ++ ": " ++ reason

/-- The reasons behind the message, nearest first. -/
def causes : SetupError → List String
  | invalidFilter _ .directive => [FilterProblem.directive.message]
  | invalidFilter _ .level => [FilterProblem.level.message, FilterProblem.level.message]
  | directory _ _ => []

end SetupError

/-- The file in the log directory that records go to. -/
def fileName : String := "stagebench.log"

/-- Opens the log file of a directory, which is made if need be. -/
def openDirectory (fs : FileSystem) (path : Path) : Except SetupError FileSystem :=
  match fs.makeDirectories path with
  | .error e => .error (.directory path e.message)
  | .ok fs =>
    let file := path.join ⟨fileName⟩
    match fs.read file with
    | .ok _ => .ok fs
    | .error _ =>
      match fs.write file [] with
      | .ok fs => .ok fs
      | .error e => .error (.directory path ("failed to create initial log file: " ++ e.message))

/-- Sets logging up; the filter is looked at first. -/
def setUp (fs : FileSystem) (s : Settings) : Except SetupError FileSystem :=
  match filterProblem? s.filter with
  | some problem => .error (.invalidFilter s.filter problem)
  | none =>
    match s.directory with
    | none => .ok fs
    | some path => openDirectory fs path

end EngineTrials.Logging
