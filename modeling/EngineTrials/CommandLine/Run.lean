import EngineTrials.CommandLine.Bench
import EngineTrials.CommandLine.Test

/-!
# Runs

A whole run of the program, from its arguments to its exit code: logging is set up, settings are
loaded, and the task is performed. A run without a verdict and one with a bad one both exit with 1,
arguments that make no sense with 2.
-/
namespace EngineTrials.CommandLine

structure Outcome where
  exitCode : Nat
  stdout : String
  stderr : String
  files : FileSystem

def name : String := "stagebench"

def version : String := "0.3.0"

def usage : String :=
  "Usage: stagebench [OPTIONS] test [-a] [-j JOBS] [--format text|json] [--bin-dir DIR] " ++
    "[--args ARGS] [PATHS]...\n" ++
  "       stagebench [OPTIONS] bench [--args ARGS] [--repetitions N] [--binary FILE] " ++
    "[--csv FILE] [SUITES]...\n" ++
  "Options: -v, --verbose; --config FILE; --no-color; --log-dir DIR; -h, --help; -V, --version\n"

/-- Colors are for somebody who watches and does not object. -/
def showsColor (s : Surroundings) (r : Request) : Bool :=
  !r.noColor && s.terminal && (s.environment "NO_COLOR").isNone

/-- The log settings of the environment under those of the request. -/
def logSettings (s : Surroundings) (r : Request) : Logging.Settings :=
  let base := Logging.Settings.ofEnvironment s.environment "warn"
  { base with
    filter := if r.verbose then "info" else base.filter
    toStderr := true
    ansi := showsColor s r
    directory := r.logDirectory }

def loadSettings (s : Surroundings) (files : FileSystem) (r : Request) :
    Except Fault Config.Settings :=
  (Config.Settings.load files s.root s.home r.config { values := s.environment }).mapError
    Fault.ofSettings

/-- Performs the task of a request. -/
def perform (s : Surroundings) (runner : Runner FileSystem) (r : Request) : Finished :=
  let start : Progress := { files := s.files }
  match Logging.setUp s.files (logSettings s r) with
  | .error e => ⟨start, .error (.ofSetup e)⟩
  | .ok files =>
    let p := { start with files }
    match loadSettings s files r with
    | .error fault => ⟨p, .error fault⟩
    | .ok settings =>
      match r.task with
      | .test o => o.perform settings runner ⟨r.verbose, showsColor s r⟩ p
      | .bench o => o.perform settings runner r.verbose s.today p

def exitCode : Except Fault Bool → Nat
  | .ok true => 0
  | _ => 1

/-- The outcome of a run that was finished. -/
def outcomeOf (f : Finished) : Outcome :=
  let p := match f.verdict with
    | .ok _ => f.progress
    | .error fault => f.progress.note fault.text
  ⟨exitCode f.verdict, p.stdout, p.stderr, p.files⟩

/-- Runs the program with these arguments. -/
def run (s : Surroundings) (runner : Runner FileSystem) (words : List String) : Outcome :=
  match read s.environment words with
  | .ok r => outcomeOf (perform s runner r)
  | .error .version => ⟨0, name ++ " " ++ version ++ "\n", "", s.files⟩
  | .error .help => ⟨0, usage, "", s.files⟩
  | .error (.misuse m) => ⟨2, "", "error: " ++ m.message ++ "\n\n" ++ usage, s.files⟩

end EngineTrials.CommandLine
