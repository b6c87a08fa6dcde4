import EngineTrials.Benchmark.Date
import EngineTrials.Benchmark.Failure
import EngineTrials.Benchmark.File
import EngineTrials.Benchmark.Timing
import EngineTrials.Engine.Runner
import EngineTrials.Text.Payload

/-!
# Running benchmarks

Each case of a file is one call of the engine, which gets the query once a line, as often as there
are repetitions. A case gives all its samples or, if anything goes wrong, none; the next case is run
in any event.
-/
namespace EngineTrials

/-- One sample with all that identifies it. -/
structure BenchmarkRecord where
  date : Date
  suite : String
  benchmark : String
  name : String
  case : String
  time : Binary64
deriving DecidableEq, Inhabited

/-- A case without samples, with what is needed to reproduce it. -/
structure CaseFailure where
  case : BenchmarkCase
  command : Command
  failure : BenchmarkFailure
deriving DecidableEq, Inhabited

/-- Everything one file gave. -/
structure BenchmarkRun where
  records : List BenchmarkRecord := []
  failures : List CaseFailure := []
deriving Inhabited

/-- What is the same for every file of a run. -/
structure Benchmarks where
  binary : Path
  extraArguments : List String := []
  repetitions : Nat := 5
  /-- How long one case may take. -/
  timeout : Duration := .ofSeconds 60
deriving DecidableEq, Inhabited

namespace Benchmarks

variable {σ : Type}

/-- The engine reads queries from its standard input and prints nothing but timings. -/
def quietFromInput (c : Command) : Command := c.withArguments ["--quiet", "-"]

def commandFor (b : Benchmarks) (schema : Path) : Command :=
  (Command.mk b.binary ["-t", schema.text]).withArguments b.extraArguments

/-- The command line a case of this schema is run with. -/
def invocationFor (b : Benchmarks) (schema : Path) : Command :=
  quietFromInput (b.commandFor schema)

/-- Samples are taken from clean results only. Outputs need not be UTF-8: they are read one byte a
character. -/
def samplesOf (selects : List Char → Bool) :
    Except EngineError Capture → Except BenchmarkFailure (List Binary64)
  | .error (.timeout limit) => .error (.timeout limit)
  | .error e => .error (.launch e.message)
  | .ok c =>
    if c.isClean then .ok (samples selects (Text.Latin1.decode c.stdout).toList)
    else .error (.unexpected c.exitCode (Text.Latin1.decode c.stdout) (Text.Latin1.decode c.stderr))

/-- Times one query with one call of the engine. -/
def runCase (runner : Runner σ) (command : Command) (query : String) (selects : List Char → Bool)
    (repetitions : Nat) (timeout : Duration) (s : Session σ) :
    Except BenchmarkFailure (List Binary64) × Session σ :=
  let (answer, s) :=
    runner.invoke ⟨quietFromInput command, Query.input query repetitions, timeout⟩ s
  (samplesOf selects answer, s)

/-- The records of a case that gave samples. -/
def records (file : BenchmarkFile) (date : Date) (case : BenchmarkCase) (times : List Binary64) :
    List BenchmarkRecord :=
  times.map fun time => ⟨date, file.suite, file.benchmark, file.name, case.name, time⟩

/-- Adds what a case gave in front of what later cases gave. -/
def addCase (file : BenchmarkFile) (date : Date) (command : Command) (case : BenchmarkCase)
    (result : Except BenchmarkFailure (List Binary64)) (later : BenchmarkRun) : BenchmarkRun :=
  match result with
  | .ok times => { later with records := records file date case times ++ later.records }
  | .error failure =>
    { later with failures := ⟨case, quietFromInput command, failure⟩ :: later.failures }

def runCases (b : Benchmarks) (runner : Runner σ) (file : BenchmarkFile) (date : Date) :
    List BenchmarkCase → Session σ → BenchmarkRun × Session σ
  | [], s => ({}, s)
  | case :: rest, s =>
    let command := b.commandFor file.schemaPath
    let (result, s) :=
      runCase runner command case.query file.pattern.selects b.repetitions b.timeout s
    let (later, s) := b.runCases runner file date rest s
    (addCase file date command case result later, s)

/-- Runs every case of a file. -/
def runFile (b : Benchmarks) (runner : Runner σ) (file : BenchmarkFile) (date : Date)
    (s : Session σ) : BenchmarkRun × Session σ :=
  b.runCases runner file date file.cases s

end Benchmarks

end EngineTrials
