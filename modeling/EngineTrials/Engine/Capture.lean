import EngineTrials.Duration
import EngineTrials.Text.Payload

/-!
# What one invocation left behind

The exit code and both output streams of a program that ran to its end, and why a program gave no
such result. A code below zero is the number of the signal that ended the program.
-/
namespace EngineTrials
open Text

structure Capture where
  exitCode : Int
  stdout : Bytes
  stderr : Bytes
  wallTime : Option Duration := none
deriving DecidableEq, Inhabited

namespace Capture

/-- Exit code zero and nothing on the error stream. -/
def isClean (c : Capture) : Bool :=
  c.exitCode == 0 && c.stderr.isEmpty

theorem isClean_iff {c : Capture} : c.isClean = true ↔ c.exitCode = 0 ∧ c.stderr = [] := by
  simp [isClean]

end Capture

/-- Why an invocation did not complete. -/
inductive EngineError
  /-- The program could not be started. -/
  | launch (program : String) (cause : String)
  /-- The limit passed before the program and its streams had ended. -/
  | timeout (limit : Duration)
  /-- The input could not be written, other than because nobody read it. -/
  | input (cause : String)
  | io (cause : String)
deriving DecidableEq, Inhabited

namespace EngineError

def message : EngineError → String
  | launch program cause => "Failed to launch " ++ program ++ ": " ++ cause
  | timeout limit => "Process timed out after " ++ limit.text
  | input cause => "Failed to write input to process: " ++ cause
  | io cause => "IO error: " ++ cause

def isTimeout : EngineError → Bool
  | timeout _ => true
  | _ => false

end EngineError

end EngineTrials
