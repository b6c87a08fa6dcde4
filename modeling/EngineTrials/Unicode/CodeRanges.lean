import EngineTrials.Text.Digits
import EngineTrials.Text.Pieces

/-!
# Sets of code points

A set is a list of closed intervals, ascending and apart from one another. The set operations of
character classes are defined here, and the notation the tables of Unicode properties are written
in: hexadecimal intervals separated by blanks, a lone code point standing for itself.
-/
namespace EngineTrials.Unicode

structure CodeRanges where
  intervals : List (Nat × Nat)
deriving DecidableEq, Inhabited

namespace CodeRanges
open Text

def greatest : Nat := 0x10FFFF

/-- Looks through ascending intervals, no further than the first that lies beyond `n`. -/
def within (n : Nat) : List (Nat × Nat) → Bool
  | [] => false
  | (lo, hi) :: rest => if n < lo then false else n ≤ hi || within n rest

def contains (s : CodeRanges) (c : Char) : Bool :=
  within c.toNat s.intervals

/-- Merges intervals that are sorted by their lower ends where they meet. -/
def mergeFrom (lo hi : Nat) : List (Nat × Nat) → List (Nat × Nat)
  | [] => [(lo, hi)]
  | (lo', hi') :: rest =>
    if lo' ≤ hi + 1 then mergeFrom lo (max hi hi') rest
    else (lo, hi) :: mergeFrom lo' hi' rest

def ofIntervals (is : List (Nat × Nat)) : CodeRanges :=
  match (is.filter fun i => i.1 ≤ i.2).mergeSort (fun a b => decide (a.1 ≤ b.1)) with
  | [] => ⟨[]⟩
  | (lo, hi) :: rest => ⟨mergeFrom lo hi rest⟩

def empty : CodeRanges := ⟨[]⟩

def all : CodeRanges := ⟨[(0, greatest)]⟩

def single (n : Nat) : CodeRanges := ⟨[(n, n)]⟩

def union (a b : CodeRanges) : CodeRanges :=
  ofIntervals (a.intervals ++ b.intervals)

/-- The gaps from `next` on. -/
def gaps (next : Nat) : List (Nat × Nat) → List (Nat × Nat)
  | [] => if next ≤ greatest then [(next, greatest)] else []
  | (lo, hi) :: rest =>
    if next < lo then (next, lo - 1) :: gaps (hi + 1) rest else gaps (hi + 1) rest

def complement (s : CodeRanges) : CodeRanges :=
  ⟨gaps 0 s.intervals⟩

def inter (a b : CodeRanges) : CodeRanges :=
  (union a.complement b.complement).complement

def diff (a b : CodeRanges) : CodeRanges :=
  inter a b.complement

def symmetricDiff (a b : CodeRanges) : CodeRanges :=
  diff (union a b) (inter a b)

/-- One entry of a table: `lo-hi` or a lone code point, in hexadecimal. -/
def interval? (entry : List Char) : Option (Nat × Nat) :=
  match pieces (· == '-') entry with
  | [a] => (natural? 16 a).map fun n => (n, n)
  | [a, b] => do return (← natural? 16 a, ← natural? 16 b)
  | _ => none

def ofTable (table : String) : CodeRanges :=
  ⟨(words table.toList).filterMap interval?⟩

end CodeRanges

end EngineTrials.Unicode
