import EngineTrials.CaseFile.Malformed
import EngineTrials.Trial.Run

/-!
# Running files side by side

A pool has a worker for each file and lets at most `jobs` of them run at a time. A schedule names
the workers that make a step, one after the other: a worker starts its file, runs one stage, or
finishes. Each file has counters of its own, so that its report does not depend on the others.
-/
namespace EngineTrials

/-- A file of a run: the case in it, or why there is none. -/
structure TrialFile where
  path : Path
  loaded : Except MalformedInput TestCase

/-- What one file gave. -/
structure FileReport where
  path : Path
  result : Except MalformedInput (List StageOutcome)
  counters : Counters

namespace FileReport

/-- The report on a file that could not be loaded. -/
def ofMalformed (path : Path) (m : MalformedInput) : FileReport :=
  ⟨path, .error m, ({} : Counters).recordBadFile⟩

/-- The report on a case whose stages had these outcomes. -/
def ofOutcomes (path : Path) (case : TestCase) (outcomes : List StageOutcome) : FileReport :=
  ⟨path, .ok outcomes, ({} : Counters).recordAll outcomes case.required⟩

/-- The counters of all files together. -/
def total (reports : List FileReport) : Counters :=
  reports.foldl (fun c r => c.merge r.counters) {}

end FileReport

inductive Worker
  | waiting
  /-- `proceed` as long as every stage passed. -/
  | running (case : TestCase) (done : List StageOutcome) (rest : List StageSpec) (proceed : Bool)
  | finished (report : FileReport)

namespace Worker

def isRunning : Worker → Bool
  | running _ _ _ _ => true
  | _ => false

def report? : Worker → Option FileReport
  | finished r => some r
  | _ => none

end Worker

/-- The workers in the order of their files, and the session that all of them call the engine in. -/
structure Pool (σ : Type) where
  jobs : Nat
  files : List TrialFile
  workers : List Worker
  session : Session σ

namespace Pool

variable {σ : Type}

def start (jobs : Nat) (files : List TrialFile) (session : Session σ) : Pool σ :=
  ⟨jobs, files, files.map fun _ => .waiting, session⟩

/-- How many files are being run. -/
def active (p : Pool σ) : Nat := p.workers.countP Worker.isRunning

/-- A step of a worker on its file. A worker that waits needs room among the jobs. -/
def step (t : Trials) (runner : Runner σ) (room : Bool) (file : TrialFile) (w : Worker)
    (s : Session σ) : Worker × Session σ :=
  match w with
  | .waiting =>
    if room then
      match file.loaded with
      | .error m => (.finished (.ofMalformed file.path m), s)
      | .ok case => (.running case [] case.stages true, s)
    else (.waiting, s)
  | .running case done [] _ => (.finished (.ofOutcomes file.path case done), s)
  | .running case done (spec :: rest) proceed =>
    let (outcome, s) := t.resolve runner case.database case.query proceed spec s
    (.running case (done ++ [outcome]) rest outcome.passed, s)
  | .finished r => (.finished r, s)

/-- Lets one worker make a step, if there is one of this number. -/
def advance (t : Trials) (runner : Runner σ) (p : Pool σ) (i : Nat) : Pool σ :=
  match p.files[i]?, p.workers[i]? with
  | some file, some w =>
    let (w, session) := step t runner (p.active < p.jobs) file w p.session
    { p with workers := p.workers.set i w, session }
  | _, _ => p

/-- Lets the workers of a schedule make a step each, in turn. -/
def run (t : Trials) (runner : Runner σ) (schedule : List Nat) (p : Pool σ) : Pool σ :=
  schedule.foldl (advance t runner) p

def isComplete (p : Pool σ) : Bool := p.workers.all fun w => w.report?.isSome

/-- The reports of the files that are finished, in the order of the files. -/
def reports (p : Pool σ) : List FileReport := p.workers.filterMap Worker.report?

/-- How many steps a file takes. -/
def stepsFor (file : TrialFile) : Nat :=
  match file.loaded with
  | .error _ => 1
  | .ok case => case.stages.length + 2

/-- The schedule that finishes each file before it starts the next. -/
def oneByOne (files : List TrialFile) : List Nat :=
  (files.zipIdx).flatMap fun (file, i) => List.replicate (stepsFor file) i

end Pool

end EngineTrials
