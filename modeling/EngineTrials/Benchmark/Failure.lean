import EngineTrials.Benchmark.Query
import EngineTrials.Duration
import EngineTrials.Engine.Command

/-!
# Benchmark failures

Why a benchmark case gave no samples. An unexpected failure can be reproduced by hand, so it comes
with a recipe and with what the engine wrote.
-/
namespace EngineTrials

inductive BenchmarkFailure
  | timeout (limit : Duration)
  /-- A nonzero exit code, or anything on the error stream. -/
  | unexpected (exitCode : Int) (stdout stderr : String)
  | launch (cause : String)
deriving DecidableEq, Inhabited

namespace BenchmarkFailure
open Text

def message : BenchmarkFailure → String
  | timeout limit => "Benchmark timed out after " ++ limit.secondsText ++ " seconds"
  | unexpected exitCode _ _ => "Benchmark failed with return code " ++ decimal exitCode ++ "."
  | launch cause => "Benchmark could not be run: " ++ cause

/-- A shell line that feeds a query to a command. -/
def recipe (query : String) (command : Command) : String :=
  "$ echo -e \"" ++ Query.escape query ++ "\" | " ++ command.text

/-- The recipe and both streams, for an unexpected failure. -/
def diagnostic? (f : BenchmarkFailure) (query : String) (command : Command) : Option String :=
  match f with
  | unexpected exitCode stdout stderr => some
      ("Unexpected failure with return code " ++ decimal exitCode ++ ":\n" ++
        recipe query command ++ "\n===== stdout =====\n" ++ stdout ++
        "\n===== stderr =====\n" ++ stderr ++ "\n==================")
  | timeout _ | launch _ => none

end BenchmarkFailure

end EngineTrials
