import EngineTrials.CaseFile.Load
import EngineTrials.CommandLine.Surroundings
import EngineTrials.Report.Run

/-!
# The task `test`

Runs test files and reports on them in the order in which they were found.
-/
namespace EngineTrials.CommandLine
open Config

namespace TestOptions

/-- The settings with what the options say instead. -/
def override (o : TestOptions) (s : Settings) : Settings :=
  { s with
    binDir := o.binDir.getD s.binDir
    extraArguments := (o.extraArguments.map splitArguments).getD s.extraArguments }

/-- Why the files below a directory cannot be listed. -/
def discoveryFault (directory : Path) (pattern : String) (e : Glob.PatternError) : Fault :=
  let problem : MalformedInput := ⟨directory, Discovery.badPatternMessage pattern e⟩
  ⟨"Failed to discover test files under " ++ directory.text, [problem.message]⟩

def filesBelow (fs : FileSystem) (s : Settings) (directory : Path) : Except Fault (List Path) :=
  (Discovery.caseFiles fs directory s.fileGlob).mapError (discoveryFault directory s.fileGlob)

/-- The files that are named, with those below directories that are named. -/
def namedFiles (fs : FileSystem) (s : Settings) : List Path → Except Fault (List Path)
  | [] => .ok []
  | path :: rest => do
    let resolved := s.resolve path
    let here ← if fs.isDirectory resolved then filesBelow fs s resolved else pure [resolved]
    return here ++ (← namedFiles fs s rest)

/-- The files to run. -/
def collect (o : TestOptions) (fs : FileSystem) (s : Settings) : Except Fault (List Path) :=
  if o.paths.isEmpty then filesBelow fs s (s.resolve s.testRoot) else namedFiles fs s o.paths

/-- The reports on files, and the files of the system after the run. -/
def reports (o : TestOptions) (s : Settings) (runner : Runner FileSystem) (fs : FileSystem)
    (paths : List Path) : List FileReport × FileSystem :=
  let files := paths.map fun p => (⟨p, CaseFile.loadTest fs p s.stageCommands⟩ : TrialFile)
  let pool := (Pool.start o.jobs files ⟨fs, []⟩).run s.trials runner (Pool.oneByOne files)
  (pool.reports, pool.session.state)

/-- Writes a report. The summary is all that goes to the output in JSON. -/
def write (o : TestOptions) (color : Bool) (run : Report.Run) (p : Progress) : Progress :=
  match o.format with
  | .text => (run.texts.foldl Progress.print p).print (run.summary.text color)
  | .json => (run.texts.foldl Progress.note p).print run.summary.json

def perform (o : TestOptions) (s : Settings) (runner : Runner FileSystem)
    (options : Report.Options) (p : Progress) : Finished :=
  let s := o.override s
  match o.collect p.files s with
  | .error fault => ⟨p, .error fault⟩
  | .ok paths =>
    let (reports, files) := o.reports s runner p.files paths
    let run := Report.run options s.root o.all reports
    ⟨o.write options.color run { p with files }, .ok run.succeeded⟩

end TestOptions

end EngineTrials.CommandLine
