import EngineTrials.Regex.Compile
import EngineTrials.Regex.Reading

/-!
# Regular expressions

A pattern together with the program that it was compiled to. A text selects nothing by itself: it
has to be compiled, which fails for a malformed or too large pattern.
-/
namespace EngineTrials

structure Regex where
  source : String
  program : Program
deriving Inhabited

namespace Regex

def compile? (source : String) : Option Regex := do
  let tree ← Pattern.Tree.read? source.toList
  let (program, _) ← tree.compile? {}
  if program.unfoldedSize ≤ Program.sizeLimit then return ⟨source, program⟩ else none

/-- Whether the first match in the line, if there is one, begins at its first character. -/
def selects (r : Regex) (line : List Char) : Bool :=
  r.program.matchesAtStart line

end Regex

end EngineTrials
