import EngineTrials.Report.Console
import EngineTrials.Report.Summary
import EngineTrials.Trial.Pool

/-!
# Report on a run

The reports on the files, in the order of the files, the summary of all, and the verdict.
-/
namespace EngineTrials.Report

structure Run where
  /-- What is written about each file; nothing for one without entries. -/
  texts : List String
  summary : Summary
  succeeded : Bool
deriving DecidableEq, Inhabited

/-- What is written about a file, which is named as seen from the root. -/
def fileReport (options : Options) (root : Path) (r : FileReport) : String :=
  let shown := root.relativeTo r.path
  match r.result with
  | .ok outcomes => file options shown outcomes
  | .error m => badFile options shown m.reason

/-- The report on files; with `all`, optional cases count for the verdict as well. -/
def run (options : Options) (root : Path) (all : Bool) (reports : List FileReport) : Run :=
  let summary := Summary.ofCounters (FileReport.total reports)
  ⟨reports.map (fileReport options root), summary, summary.succeeded all⟩

end EngineTrials.Report
