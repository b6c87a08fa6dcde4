import EngineTrials.Unicode.CodeRanges

/-!
# Partitions of the code points

A table that gives every code point a label, written as runs: where a run starts, in hexadecimal
with small letters, and its label, which begins with a capital. A run ends where the next starts.
-/
namespace EngineTrials.Unicode
open Text

structure Partition where
  runs : List (Nat × String)

namespace Partition

def isStartDigit (c : Char) : Bool :=
  isDigit c || ('a' ≤ c && c ≤ 'f')

def run? (entry : List Char) : Option (Nat × String) :=
  (natural? 16 (entry.takeWhile isStartDigit)).map fun n =>
    (n, String.ofList (entry.dropWhile isStartDigit))

def ofTable (table : String) : Partition :=
  ⟨(words table.toList).filterMap run?⟩

/-- The runs whose label is wanted, as intervals. -/
def intervals (wanted : String → Bool) : List (Nat × String) → List (Nat × Nat)
  | [] => []
  | [(lo, label)] => if wanted label then [(lo, CodeRanges.greatest)] else []
  | (lo, label) :: (next, label') :: rest =>
    let more := intervals wanted ((next, label') :: rest)
    if wanted label then (lo, next - 1) :: more else more

def labelled (p : Partition) (wanted : String → Bool) : CodeRanges :=
  .ofIntervals (intervals wanted p.runs)

end Partition

end EngineTrials.Unicode
