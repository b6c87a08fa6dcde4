import EngineTrials.Path

/-!
# Command lines

An engine program and its arguments in order.
-/
namespace EngineTrials

structure Command where
  program : Path
  arguments : List String
deriving DecidableEq, Inhabited

namespace Command

/-- Appends arguments. -/
def withArguments (c : Command) (more : List String) : Command :=
  { c with arguments := c.arguments ++ more }

/-- The program and every argument with one space before it; nothing is quoted. -/
def text (c : Command) : String :=
  c.arguments.foldl (fun line a => line ++ " " ++ a) c.program.text

end Command

end EngineTrials
