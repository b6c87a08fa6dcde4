import EngineTrials.Benchmark.Run
import EngineTrials.Config.Environment
import EngineTrials.Config.File
import EngineTrials.Discovery
import EngineTrials.Trial.Run

/-!
# Settings

Settings come in layers: what is built in, then a configuration file, then variables of the
environment. A later layer wins key by key. Paths may be relative and are resolved against the root
when they are used.
-/
namespace EngineTrials.Config
open Text

structure Settings where
  root : Path
  /-- The user's home directory, where there is one. -/
  home : Option Path := none
  binDir : Path := ⟨"build/debug/bin"⟩
  benchBinary : Path := ⟨"build/release/bin/shell"⟩
  setups : Setups := .ofList [("ours", ⟨"test/ours.sql"⟩), ("tpch", ⟨"test/tpch.sql"⟩)]
  testRoot : Path := ⟨"test"⟩
  benchRoot : Path := ⟨"benchmark"⟩
  fileGlob : String := Discovery.defaultPattern
  stageTimeout : Duration := .ofSeconds 5
  benchTimeout : Duration := .ofSeconds 60
  repetitions : Nat := 5
  csvPath : Path := ⟨"benchmark.csv"⟩
  extraArguments : List String := []
deriving DecidableEq, Inhabited

inductive SettingsError
  | unreadable (path : Path) (error : FileError)
  | malformed (path : Path) (problem : FileProblem)
  | invalidDuration (key value : String)
  | invalidValue (key reason : String)
  | environment (problems : List VariableProblem)

namespace SettingsError

def message : SettingsError → String
  | unreadable path e => "Failed to read config file " ++ path.text ++ ": " ++ e.message
  | malformed path p => "Invalid config file " ++ path.text ++ ": " ++ p.message
  | invalidDuration key value => "Invalid duration for " ++ key ++ ": '" ++ value ++ "'"
  | invalidValue key reason => "Invalid value for " ++ key ++ ": " ++ reason
  | environment problems =>
    count problems.length ++ " invalid environment variable(s):" ++
      String.join (problems.map fun p => "\n  - " ++ p.message)

end SettingsError

/-- A key whose setting will make something fail later. -/
structure Warning where
  key : String
  reason : String
deriving DecidableEq, Inhabited

namespace Warning

def message (w : Warning) : String := w.key ++ ": " ++ w.reason

end Warning

namespace Settings

/-- How often a benchmark query may be repeated at most. -/
def maxRepetitions : Nat := 1000

/-- The file that is read from the root if no other is named. -/
def fileName : String := "stagebench.toml"

def fileDuration (key : String) (fallback : Duration) :
    Option String → Except SettingsError Duration
  | none => .ok fallback
  | some value =>
    match Duration.read? value with
    | some d => .ok d
    | none => .error (.invalidDuration key value)

def fileRepetitions (fallback : Nat) : Option Nat → Except SettingsError Nat
  | none => .ok fallback
  | some n =>
    if 1 ≤ n ∧ n ≤ maxRepetitions then .ok n
    else .error (.invalidValue "repetitions"
      (count n ++ " is outside 1..=" ++ count maxRepetitions))

/-- Puts a configuration file over the settings. -/
def withFile (s : Settings) (f : FileSettings) : Except SettingsError Settings := do
  let stageTimeout ← fileDuration "stage_timeout" s.stageTimeout f.stageTimeout
  let benchTimeout ← fileDuration "bench_timeout" s.benchTimeout f.benchTimeout
  let repetitions ← fileRepetitions s.repetitions f.repetitions
  return { s with
    binDir := f.binDir.getD s.binDir
    benchBinary := f.benchBinary.getD s.benchBinary
    testRoot := f.testRoot.getD s.testRoot
    benchRoot := f.benchRoot.getD s.benchRoot
    fileGlob := f.fileGlob.getD s.fileGlob
    stageTimeout
    benchTimeout
    repetitions
    csvPath := f.csvPath.getD s.csvPath
    extraArguments := f.extraArguments.getD s.extraArguments
    setups := f.setups.getD s.setups }

/-- Puts variables over the settings. All that cannot be used are reported together. -/
def withEnvironment (s : Settings) (e : Environment) : Except SettingsError Settings :=
  let (stageTimeout, e) := e.duration "STAGE_TIMEOUT"
  let (benchTimeout, e) := e.duration "BENCH_TIMEOUT"
  let (repetitions, e) := e.number "REPETITIONS" 1 maxRepetitions
  if e.problems.isEmpty then .ok { s with
    binDir := (e.path? "BIN_DIR").getD s.binDir
    benchBinary := (e.path? "BENCH_BINARY").getD s.benchBinary
    stageTimeout := stageTimeout.getD s.stageTimeout
    benchTimeout := benchTimeout.getD s.benchTimeout
    repetitions := repetitions.getD s.repetitions
    csvPath := (e.path? "CSV_PATH").getD s.csvPath }
  else .error (.environment e.problems)

/-- Puts the layers together. -/
def layered (s : Settings) (file : Option FileSettings) (e : Environment) :
    Except SettingsError Settings := do
  let s ← match file with
    | some f => s.withFile f
    | none => pure s
  s.withEnvironment e

/-- The path with the home directory for a first component `~`. -/
def expandHome (s : Settings) (p : Path) : Path :=
  match s.home, Path.stripPrefix? ⟨"~"⟩ p with
  | some home, some rest => home.join rest
  | _, _ => p

/-- A path as it is used: below the root unless it is absolute. -/
def resolve (s : Settings) (p : Path) : Path :=
  s.root.join (s.expandHome p)

def resolvedSetups (s : Settings) : Setups :=
  s.setups.map s.resolve

/-- The configuration file to read, if any. One that is named has to be there. -/
def configFile? (fs : FileSystem) (s : Settings) : Option Path → Option Path
  | some named => some (s.resolve named)
  | none =>
    let path := s.root.join ⟨fileName⟩
    if fs.isFile path then some path else none

def readFile (fs : FileSystem) (path : Path) : Except SettingsError FileSettings := do
  let contents ← (fs.readText path).mapError (.unreadable path)
  (FileSettings.read contents).mapError (.malformed path)

/-- The settings for a root. -/
def load (fs : FileSystem) (root : Path) (home named : Option Path) (e : Environment) :
    Except SettingsError Settings := do
  let s : Settings := { root, home }
  let file ← match s.configFile? fs named with
    | some path => some <$> readFile fs path
    | none => pure none
  s.layered file e

def stageCommands (s : Settings) : StageCommands :=
  ⟨s.resolve s.binDir, s.resolvedSetups, s.extraArguments⟩

def trials (s : Settings) : Trials := ⟨s.stageCommands, s.stageTimeout⟩

def benchmarks (s : Settings) : Benchmarks :=
  ⟨s.resolve s.benchBinary, s.extraArguments, s.repetitions, s.benchTimeout⟩

/-- The warning about a file that is not there. -/
def missing? (fs : FileSystem) (key what : String) (path : Path) : Option Warning :=
  if fs.isFile path then none else some ⟨key, what ++ " not found at " ++ path.text⟩

/-- What will fail later because a program or a setup file is not there. -/
def validate (fs : FileSystem) (s : Settings) : List Warning :=
  let stages := Stage.all.filterMap fun stage =>
    missing? fs "bin_dir" (stage.name ++ " binary") ((s.resolve s.binDir).join ⟨stage.entryPoint⟩)
  let bench := missing? fs "bench_binary" "benchmark binary" (s.resolve s.benchBinary)
  let setups := s.resolvedSetups.entries.filterMap fun (db, path) =>
    missing? fs ("setups." ++ db) "setup file" path
  stages ++ bench.toList ++ setups

end Settings

end EngineTrials.Config
