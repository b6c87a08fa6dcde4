import EngineTrials.Benchmark.Run

/-!
# Reports on benchmark cases

A case that failed unexpectedly is reported with the recipe to reproduce it, which names the query
in the one-line form that the engine was given.
-/
namespace EngineTrials.Report

def caseFailure (file : BenchmarkFile) (f : CaseFailure) : String :=
  let closing := "Benchmark " ++ file.suite ++ "/" ++ file.benchmark ++ " failed: " ++
    f.failure.message
  match f.failure.diagnostic? (Query.normalize f.case.query) f.command with
  | some diagnostic => file.path.text ++ "\n" ++ diagnostic ++ "\n" ++ closing
  | none => closing

end EngineTrials.Report
