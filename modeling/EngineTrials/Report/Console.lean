import EngineTrials.Path
import EngineTrials.Report.Style
import EngineTrials.Stage.Failure

/-!
# Console report

Failures, and passing stages too if asked for, are reported below the name of their file. The name
is written once, before the first entry, and not at all for a file without entries.
-/
namespace EngineTrials.Report

structure Options where
  /-- Also report stages that passed. -/
  verbose : Bool := false
  color : Bool := false
deriving DecidableEq, Inhabited

/-- The entry of an outcome, if it is to be reported. -/
def entry? (options : Options) (o : StageOutcome) : Option String :=
  match o.failure with
  | some failure => some
      ("└─ " ++ o.stage.name ++ " " ++ Style.red.paint options.color "✘" ++ " " ++ failure.message)
  | none =>
    if options.verbose then
      some ("└─ " ++ o.stage.name ++ " " ++ Style.green.paint options.color "✓")
    else none

/-- What is written for one outcome, and whether the file name has been written by then. -/
def outcome (options : Options) (path : Path) (headed : Bool) (o : StageOutcome) :
    String × Bool :=
  match entry? options o with
  | none => ("", headed)
  | some line => ((if headed then "" else path.text ++ "\n") ++ line ++ "\n", true)

/-- What is written for outcomes in order. -/
def outcomes (options : Options) (path : Path) : Bool → List StageOutcome → String × Bool
  | headed, [] => ("", headed)
  | headed, o :: rest =>
    let (text, headed) := outcome options path headed o
    let (more, headed) := outcomes options path headed rest
    (text ++ more, headed)

/-- The report on one file. -/
def file (options : Options) (path : Path) (os : List StageOutcome) : String :=
  (outcomes options path false os).1

/-- The report on a file that could not be loaded. -/
def badFile (options : Options) (path : Path) (reason : String) : String :=
  path.text ++ "\n└─ yaml_check " ++ Style.yellow.paint options.color "!" ++ " " ++ reason ++ "\n"

end EngineTrials.Report
