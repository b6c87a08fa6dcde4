import EngineTrials.Path
import EngineTrials.Stage.Expectation

/-!
# Test cases

A query, the database it is asked of, and the stages it has to pass in declared order.
-/
namespace EngineTrials

/-- A stage to run and the checks that apply to it. -/
structure StageSpec where
  stage : Stage
  expectation : Expectation := {}
deriving DecidableEq, Inhabited

structure TestCase where
  path : Path
  description : String
  database : String
  query : String
  /-- Whether a failure makes the whole run fail. -/
  required : Bool
  stages : List StageSpec
deriving DecidableEq, Inhabited

end EngineTrials
