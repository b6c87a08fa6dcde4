import EngineTrials.Engine.Capture
import EngineTrials.Stage
import EngineTrials.Text.Quoted

/-!
# Stage failures

Why a stage did not pass, and the outcome of a stage that was run or skipped.
-/
namespace EngineTrials

inductive OutputStream
  | stdout
  | stderr
deriving DecidableEq, Inhabited

def OutputStream.name : OutputStream → String
  | stdout => "stdout"
  | stderr => "stderr"

inductive StageFailure
  | timeout (limit : Duration)
  /-- The program could not be named or run; the text says why. -/
  | process (text : String)
  | invalidUtf8 (stream : OutputStream)
  | returnCode (expected actual : Int)
  | errorCount (expected actual : Nat)
  | stderr (expected actual : String)
  /-- The lines of both texts, each list in ascending order. -/
  | stdout (expected actual : List String)
  /-- The stage was not run because one before it failed. -/
  | earlierStageFailed
deriving DecidableEq, Inhabited

namespace StageFailure
open Text

def message : StageFailure → String
  | timeout _ => "Timeout expired"
  | process text => text
  | invalidUtf8 stream => stream.name ++ " is not valid UTF-8"
  | returnCode expected actual =>
    "Expected return code " ++ decimal expected ++ ", received " ++ decimal actual
  | errorCount expected actual =>
    "Expected " ++ count expected ++ " error, received " ++ count actual
  | stderr expected actual => "Expected err\n" ++ expected ++ "\nreceived\n" ++ actual
  | stdout expected actual =>
    "Expected out\n" ++ Quoted.quoteList expected ++ "\nreceived\n" ++ Quoted.quoteList actual
  | earlierStageFailed => "earlier stage failed"

end StageFailure

structure StageOutcome where
  stage : Stage
  failure : Option StageFailure := none
deriving DecidableEq, Inhabited

namespace StageOutcome

def passed (o : StageOutcome) : Bool := o.failure.isNone

/-- A stage counts as run unless it was skipped after a failure. -/
def wasExecuted (o : StageOutcome) : Bool :=
  o.failure != some .earlierStageFailed

/-- Empty for a stage that passed. -/
def message (o : StageOutcome) : String :=
  match o.failure with
  | none => ""
  | some f => f.message

def skipped (s : Stage) : StageOutcome := ⟨s, some .earlierStageFailed⟩

end StageOutcome

end EngineTrials
