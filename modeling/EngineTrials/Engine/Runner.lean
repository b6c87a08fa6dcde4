import EngineTrials.Engine.Capture
import EngineTrials.Engine.Command

/-!
# Runners

A runner answers calls and may change its own state in doing so. A session keeps, next to that
state, every call made so far in order, whatever its answer was.
-/
namespace EngineTrials

/-- One invocation as asked for: what to start, what to feed it, how long to wait. -/
structure Call where
  command : Command
  input : String
  timeout : Duration
deriving DecidableEq, Inhabited

/-- The answer to a call, and the state after it. -/
abbrev Runner (σ : Type) := Call → σ → Except EngineError Capture × σ

structure Session (σ : Type) where
  state : σ
  calls : List Call := []

namespace Runner

/-- Answers one call and records it. -/
def invoke {σ : Type} (runner : Runner σ) (call : Call) (s : Session σ) :
    Except EngineError Capture × Session σ :=
  let (answer, state) := runner call s.state
  (answer, ⟨state, s.calls ++ [call]⟩)

/-- A runner without state: the answer depends on the call alone. -/
def ofFunction (f : Call → Except EngineError Capture) : Runner Unit :=
  fun call _ => (f call, ())

@[simp] theorem calls_invoke {σ : Type} (runner : Runner σ) (call : Call) (s : Session σ) :
    (runner.invoke call s).2.calls = s.calls ++ [call] := rfl

end Runner

end EngineTrials
