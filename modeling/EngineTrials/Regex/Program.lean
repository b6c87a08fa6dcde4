import EngineTrials.Regex.Place

/-!
# Matching programs

A regular expression in the form it is run in: characters by sets, conditions on a place of the
line, sequence, choice and counted repetition. `reach` lists the places where a match that starts at
one of the given places can end; which of them a search would prefer does not matter here.
-/
namespace EngineTrials
open Unicode

inductive Program
  | empty
  | char (set : CodeRanges)
  | anchor (a : Anchor)
  | seq (first second : Program)
  | choice (first second : Program)
  | iterate (least : Nat) (greatest : Option Nat) (body : Program)
deriving Inhabited

namespace Program

/-- Places of either list, both in ascending order. -/
def union : List Place → List Place → List Place
  | [], qs => qs
  | ps, [] => ps
  | p :: ps, q :: qs =>
    if p.index < q.index then p :: union ps (q :: qs)
    else if p.index = q.index then p :: union ps qs
    else q :: union (p :: ps) qs
termination_by ps qs => ps.length + qs.length

def indices (ps : List Place) : List Nat := ps.map Place.index

/-- Places that are not among the others. -/
def without (ps others : List Place) : List Place :=
  ps.filter fun p => !(indices others).contains p.index

/-- `n` steps, as far as they change anything. -/
def power (f : List Place → List Place) : Nat → List Place → List Place
  | 0, ps => ps
  | n + 1, ps =>
    if ps.isEmpty then []
    else
      let next := f ps
      if indices next = indices ps then ps else power f n next

/-- The places reached in at most `n` steps from the last ones found. -/
def closure (f : List Place → List Place) : Nat → List Place → List Place → List Place
  | 0, _, seen => seen
  | n + 1, last, seen =>
    let new := without (f last) seen
    if new.isEmpty then seen else closure f n new (union seen new)

/-- More steps than there are places left can reach nothing new. -/
def placesLeft (ps : List Place) : Nat :=
  (ps.head?.map fun p => p.rest.length).getD 0 + 1

/-- The places where a match from one of these places can end, in ascending order. -/
def reach : Program → List Place → List Place
  | empty, ps => ps
  | char set, ps => ps.filterMap (Place.step? set)
  | anchor a, ps => ps.filter fun p => p.holds a
  | seq first second, ps => second.reach (first.reach ps)
  | choice first second, ps => union (first.reach ps) (second.reach ps)
  | iterate least greatest body, ps =>
    let starts := power (fun qs => body.reach qs) least ps
    let rounds := match greatest with
      | none => placesLeft starts
      | some g => g - least
    closure (fun qs => body.reach qs) rounds starts starts

/-- Whether a match starts where the line starts. -/
def matchesAtStart (p : Program) (line : List Char) : Bool :=
  !(p.reach [Place.start line]).isEmpty

/-- A program that consumes no character. -/
def isZeroWidth : Program → Bool
  | empty | anchor _ => true
  | char _ => false
  | seq a b | choice a b => a.isZeroWidth && b.isZeroWidth
  | iterate _ _ body => body.isZeroWidth

/-- The memory a set of characters takes when it is unfolded into bytes. -/
def setSize (s : CodeRanges) : Nat :=
  match s.intervals with
  | [] => 32
  | [(lo, hi)] => if lo = hi then (if lo < 0x80 then 32 else 128) else if hi < 0x80 then 72 else 600
  | is => if is.all fun i => i.2 < 0x80 then 64 + 8 * is.length else 600 + 72 * is.length

/-- The memory the program takes when every repetition is unfolded, to within a small factor. -/
def unfoldedSize : Program → Nat
  | empty => 32
  | anchor _ => 32
  | char s => setSize s
  | seq a b => a.unfoldedSize + b.unfoldedSize
  | choice a b => a.unfoldedSize + b.unfoldedSize + 64
  | iterate least greatest body =>
    let copies := match greatest with
      | none => max least 1
      | some g => g
    (if body.isZeroWidth then min copies 1 else copies) * (body.unfoldedSize + 4) + 32

/-- Programs beyond this size are refused. -/
def sizeLimit : Nat := 10485760

end Program

end EngineTrials
