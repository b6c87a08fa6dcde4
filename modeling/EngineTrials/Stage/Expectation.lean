import EngineTrials.Stage.Failure
import EngineTrials.Text.Pieces

/-!
# Expectations

The checks a case declares for a stage. A check that is not declared is not performed. Both streams
must be UTF-8 in any case; then return code, number of errors, error stream and output are checked
in this order, and the first that does not hold is the failure.
-/
namespace EngineTrials
open Text

structure Expectation where
  returnCode : Option Int := none
  errorCount : Option Nat := none
  stderr : Option String := none
  stdout : Option String := none
deriving DecidableEq, Inhabited

namespace Expectation

/-- How often `word`, which is not empty, occurs in a text that is read on behind each occurrence;
so many characters of the last one are `left`. -/
def occurrences (word : List Char) : (left : Nat) → List Char → Nat
  | _, [] => 0
  | left + 1, _ :: rest => occurrences word left rest
  | 0, c :: rest =>
    if word.isPrefixOf (c :: rest) then occurrences word (word.length - 1) rest + 1
    else occurrences word 0 rest

/-- The number of errors an engine reported. -/
def countErrors (stderr : String) : Nat :=
  occurrences "error".toList 0 stderr.toList

/-- The first declared check that does not hold, if any. -/
def violation? (e : Expectation) (exitCode : Int) (out err : String) : Option StageFailure :=
  let code := e.returnCode.bind fun n =>
    if n = exitCode then none else some (.returnCode n exitCode)
  let errors := e.errorCount.bind fun n =>
    if n = countErrors err then none else some (.errorCount n (countErrors err))
  let stderr := e.stderr.bind fun t => if t = err then none else some (.stderr t err)
  let stdout := e.stdout.bind fun t =>
    if sortedLines t = sortedLines out then none
    else some (.stdout (sortedLines t) (sortedLines out))
  code.or (errors.or (stderr.or stdout))

/-- Holds a captured invocation against the declared checks. -/
def check (e : Expectation) (c : Capture) : Except StageFailure Unit :=
  match Utf8.text? c.stdout with
  | none => .error (.invalidUtf8 .stdout)
  | some out =>
    match Utf8.text? c.stderr with
    | none => .error (.invalidUtf8 .stderr)
    | some err =>
      match e.violation? c.exitCode out err with
      | some failure => .error failure
      | none => .ok ()

end Expectation

end EngineTrials
