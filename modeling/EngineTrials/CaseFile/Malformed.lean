import EngineTrials.Path

/-!
# Malformed input

A case file that cannot be used, and why.
-/
namespace EngineTrials

structure MalformedInput where
  path : Path
  reason : String
deriving DecidableEq, Inhabited

namespace MalformedInput

def message (m : MalformedInput) : String :=
  "Malformed input " ++ m.path.text ++ ": " ++ m.reason

end MalformedInput

end EngineTrials
