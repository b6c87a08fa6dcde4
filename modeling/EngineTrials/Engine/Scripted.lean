import EngineTrials.Engine.Runner

/-!
# Scripted engines

A runner that starts nothing. Queued responses are used first, one a call and oldest first; then
responses fixed for a program by its file name; then a responder; and failing all of them the call
succeeds without output.
-/
namespace EngineTrials

inductive Response
  | complete (capture : Capture)
  | timeout
  | launchFailure
deriving DecidableEq, Inhabited

namespace Response

/-- Exit code zero, the output given, nothing on the error stream. -/
def ok (stdout : Text.Bytes) : Response := .complete ⟨0, stdout, [], none⟩

/-- What the caller sees. A timeout reports the limit of the call itself. -/
def answer (r : Response) (call : Call) : Except EngineError Capture :=
  match r with
  | complete capture => .ok capture
  | timeout => .error (.timeout call.timeout)
  | launchFailure => .error (.launch call.command.program.text "scripted spawn failure")

end Response

structure ScriptedEngine where
  byProgram : List (String × Response) := []
  responder : Option (Command → String → Response) := none

namespace ScriptedEngine

/-- The name that responses are fixed under: empty for a path that ends in no name. -/
def programName (c : Command) : String := c.program.fileName?.getD ""

/-- The response to a call that finds the queue empty. -/
def fallback (e : ScriptedEngine) (call : Call) : Response :=
  match e.byProgram.lookup (programName call.command) with
  | some r => r
  | none =>
    match e.responder with
    | some f => f call.command call.input
    | none => .ok []

/-- The state is the queue of responses that were not used yet. -/
def runner (e : ScriptedEngine) : Runner (List Response) := fun call queue =>
  match queue with
  | r :: rest => (r.answer call, rest)
  | [] => ((e.fallback call).answer call, [])

/-- Queues a response behind those that wait. -/
def push (r : Response) (s : Session (List Response)) : Session (List Response) :=
  { s with state := s.state ++ [r] }

end ScriptedEngine

end EngineTrials
