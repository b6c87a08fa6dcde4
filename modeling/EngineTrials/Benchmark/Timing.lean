import EngineTrials.Number.Reading
import EngineTrials.Text.Pieces

/-!
# Timing samples

Every word that reads as a number, on every selected line of an output, is a sample. `samples` lists
them all; `Timings` hands them out one at a time.
-/
namespace EngineTrials
open Text

/-- The samples of one line. -/
def lineSamples (selects : List Char → Bool) (line : List Char) : List Binary64 :=
  if selects line then (words line).filterMap Binary64.read? else []

/-- The samples of an output in order. -/
def samples (selects : List Char → Bool) (output : List Char) : List Binary64 :=
  (lines output).flatMap (lineSamples selects)

/-- The words left of the line that is being read, and the lines after it. -/
structure Timings where
  tokens : List (List Char)
  lines : List (List Char)
deriving DecidableEq

namespace Timings

def start (output : List Char) : Timings := ⟨[], Text.lines output⟩

/-- The first of the words that is a number, and the words after it. -/
def firstSample : List (List Char) → Option (Binary64 × List (List Char))
  | [] => none
  | t :: ts =>
    match Binary64.read? t with
    | some x => some (x, ts)
    | none => firstSample ts

/-- Looks for a sample on the lines left. -/
def nextFrom (selects : List Char → Bool) : List (List Char) → Option Binary64 × Timings
  | [] => (none, ⟨[], []⟩)
  | line :: rest =>
    match firstSample (if selects line then words line else []) with
    | some (x, tokens) => (some x, ⟨tokens, rest⟩)
    | none => nextFrom selects rest

/-- The next sample, if there is one. -/
def next (selects : List Char → Bool) (t : Timings) : Option Binary64 × Timings :=
  match firstSample t.tokens with
  | some (x, tokens) => (some x, ⟨tokens, t.lines⟩)
  | none => nextFrom selects t.lines

/-- The answers to `n` requests that were samples, and what is left after them. -/
def take (selects : List Char → Bool) : Nat → Timings → List Binary64 × Timings
  | 0, t => ([], t)
  | n + 1, t =>
    match t.next selects with
    | (none, t) => take selects n t
    | (some x, t) =>
      let (xs, t) := take selects n t
      (x :: xs, t)

/-- All samples that are left. -/
def remaining (selects : List Char → Bool) (t : Timings) : List Binary64 :=
  t.tokens.filterMap Binary64.read? ++ t.lines.flatMap (lineSamples selects)

end Timings

end EngineTrials
