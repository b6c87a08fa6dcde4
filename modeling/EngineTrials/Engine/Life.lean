import EngineTrials.Engine.Supervisor

/-!
# Lives of programs

What a started program does in the course of time, as far as its supervisor can tell: what it
writes, when it ends, and until when its streams are held open by it or by what it left behind.
-/
namespace EngineTrials
open Text

/-- Times are nanoseconds since the start; what lies beyond the time allowed is missing. -/
structure Life where
  /-- When it ends and with which code. -/
  ending : Option (Nat × Int)
  /-- When its input has been taken as far as it ever will be. -/
  inputTaken : Option Nat
  stdout : Bytes
  stdoutCloses : Option Nat
  stderr : Bytes
  stderrCloses : Option Nat
deriving Inhabited

namespace Life

/-- Whether something happened before an instant. -/
def past (now : Instant) (event : Option Nat) : Bool :=
  match event with
  | some t => decide (t ≤ now.nanoseconds)
  | none => false

/-- What can be seen of it at an instant. -/
def look (l : Life) (now : Instant) : Look :=
  { now
    writer := if past now l.inputTaken then .complete else .unfinished
    child :=
      match l.ending with
      | some (t, code) => if t ≤ now.nanoseconds then .exited code else .running
      | none => .running
    stdout := if past now l.stdoutCloses then some l.stdout else none
    stderr := if past now l.stderrCloses then some l.stderr else none }

/-- What its supervisor reports, if it may take so long. -/
def supervised (l : Life) (limit : Duration) : Supervisor.Verdict :=
  let patience := Supervisor.patienceFor limit
  let verdict := Supervisor.watch ⟨⟨0⟩, limit⟩ l.look patience (.running true) ⟨0⟩
  verdict.getD (.answered (.error (.timeout limit)))

end Life

end EngineTrials
