import EngineTrials.Engine.Runner
import EngineTrials.Stage.Command
import EngineTrials.Trial.Case
import EngineTrials.Trial.Counters

/-!
# Running a test case

The stages of a case are run in declared order, each only if the one before it passed. The first
failure is the last stage for which the engine is called; every later stage is recorded as skipped.
-/
namespace EngineTrials

/-- What is the same for every case of a run. -/
structure Trials where
  commands : StageCommands
  /-- How long one stage may take. -/
  timeout : Duration := .ofSeconds 5
deriving DecidableEq, Inhabited

namespace Trials

/-- The outcome of a stage whose call was answered. -/
def outcomeOf (spec : StageSpec) : Except EngineError Capture → StageOutcome
  | .error (.timeout limit) => ⟨spec.stage, some (.timeout limit)⟩
  | .error e => ⟨spec.stage, some (.process e.message)⟩
  | .ok capture =>
    match spec.expectation.check capture with
    | .ok () => ⟨spec.stage, none⟩
    | .error failure => ⟨spec.stage, some failure⟩

variable {σ : Type}

/-- Calls the engine for one stage, unless its command line cannot be built. -/
def runStage (t : Trials) (runner : Runner σ) (database query : String) (spec : StageSpec)
    (s : Session σ) : StageOutcome × Session σ :=
  match t.commands.command spec.stage database with
  | .error failure => (⟨spec.stage, some failure⟩, s)
  | .ok command =>
    let (answer, s) := runner.invoke ⟨command, query, t.timeout⟩ s
    (outcomeOf spec answer, s)

/-- One stage, which is skipped if `proceed` does not hold. -/
def resolve (t : Trials) (runner : Runner σ) (database query : String) (proceed : Bool)
    (spec : StageSpec) (s : Session σ) : StageOutcome × Session σ :=
  if proceed then t.runStage runner database query spec s
  else (.skipped spec.stage, s)

/-- The outcomes of the stages, in order. -/
def runStages (t : Trials) (runner : Runner σ) (database query : String) :
    Bool → List StageSpec → Session σ → List StageOutcome × Session σ
  | _, [], s => ([], s)
  | proceed, spec :: rest, s =>
    let (outcome, s) := t.resolve runner database query proceed spec s
    let (outcomes, s) := t.runStages runner database query outcome.passed rest s
    (outcome :: outcomes, s)

/-- Runs a case and counts its outcomes. -/
def runCase (t : Trials) (runner : Runner σ) (case : TestCase) (counters : Counters)
    (s : Session σ) : List StageOutcome × Counters × Session σ :=
  let (outcomes, s) := t.runStages runner case.database case.query true case.stages s
  (outcomes, counters.recordAll outcomes case.required, s)

end Trials

end EngineTrials
