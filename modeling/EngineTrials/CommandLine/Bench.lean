import EngineTrials.Benchmark.Query
import EngineTrials.CaseFile.Load
import EngineTrials.CommandLine.Surroundings
import EngineTrials.Report.Benchmark
import EngineTrials.Report.Csv

/-!
# The task `bench`

Runs benchmark files and writes their samples to a file, which is made before the first one runs.
-/
namespace EngineTrials.CommandLine
open Config Text

namespace BenchOptions

/-- The settings with what the options say instead. -/
def override (o : BenchOptions) (s : Settings) : Settings :=
  { s with
    benchBinary := o.binary.getD s.benchBinary
    repetitions := o.repetitions.getD s.repetitions
    csvPath := o.csv.getD s.csvPath
    extraArguments := (o.extraArguments.map splitArguments).getD s.extraArguments }

def discoveryFault (directory : Path) (e : Glob.PatternError) : Fault :=
  let problem : MalformedInput :=
    ⟨directory, Discovery.badPatternMessage Discovery.defaultPattern e⟩
  ⟨"Failed to discover benchmark files under " ++ directory.text, [problem.message]⟩

/-- A run that goes on: what was written, the samples, and how many files were performed. -/
structure State where
  progress : Progress
  sheet : Csv.Sheet
  performed : Nat := 0

/-- What was measured with: what is the same for all files of a run. -/
structure Setting where
  settings : Settings
  verbose : Bool
  today : Date

/-- The recipe for what a case is about to do. -/
def recipe (b : Benchmarks) (file : BenchmarkFile) (case : BenchmarkCase) : String :=
  "$ echo -e \"" ++ Query.escape (Query.normalize case.query) ++ "\" | " ++
    (b.invocationFor file.schemaPath).text

def schemaViolation (root : Path) (m : MalformedInput) (path : Path) : String :=
  "Benchmark file \"" ++ (root.relativeTo path).text ++ "\" violates schema: " ++ m.reason

/-- Runs a file that could be loaded. The samples are written before the next file is run; where
that is not possible any more, they are still counted. -/
def performFile (setting : Setting) (runner : Runner FileSystem) (file : BenchmarkFile)
    (st : State) : State :=
  let s := setting.settings
  let b := s.benchmarks
  let shown := if setting.verbose then file.cases.map (recipe b file) else []
  let p := shown.foldl Progress.print st.progress
  let (run, session) := b.runFile runner file setting.today ⟨p.files, []⟩
  let p := (run.failures.map (Report.caseFailure file)).foldl Progress.print p
  let sheet := st.sheet.appendAll run.records
  let files := match Csv.Sheet.save session.state (s.resolve s.csvPath) sheet with
    | .ok files => files
    | .error _ => session.state
  ⟨{ p with files }, sheet, st.performed + 1⟩

/-- One file; if it cannot be loaded that is reported, and it is left out. -/
def step (setting : Setting) (runner : Runner FileSystem) (st : State) (path : Path) : State :=
  match CaseFile.loadBenchmark st.progress.files path with
  | .ok file => performFile setting runner file st
  | .error m =>
    { st with progress := st.progress.print (schemaViolation setting.settings.root m path) }

/-- The line that closes a run. -/
def closing (total : Nat) (csv : Path) (st : State) : String :=
  count st.performed ++ "/" ++ count total ++ " benchmark files performed, " ++
    count st.sheet.rows ++ " samples written to " ++ csv.text

def perform (o : BenchOptions) (s : Settings) (runner : Runner FileSystem) (verbose : Bool)
    (today : Date) (p : Progress) : Finished :=
  let s := o.override s
  let root := s.resolve s.benchRoot
  let csv := s.resolve s.csvPath
  match Discovery.benchmarkFiles p.files root o.suites with
  | .error e => ⟨p, .error (discoveryFault root e)⟩
  | .ok paths =>
    match Csv.Sheet.save p.files csv .create with
    | .error e => ⟨p, .error ⟨"Failed to create " ++ csv.text, [e.message]⟩⟩
    | .ok files =>
      let start : State := ⟨{ p with files }, .create, 0⟩
      let st := paths.foldl (step ⟨s, verbose, today⟩ runner) start
      ⟨st.progress.print (closing paths.length csv st), .ok (st.performed == paths.length)⟩

end BenchOptions

end EngineTrials.CommandLine
