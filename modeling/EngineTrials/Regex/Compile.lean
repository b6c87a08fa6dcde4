import EngineTrials.Regex.Program
import EngineTrials.Regex.Tree
import EngineTrials.Unicode.Folding

/-!
# From patterns to programs

Flags decide what a part of a pattern means. Without Unicode a class may hold ASCII characters only,
because it could match part of a character otherwise; such patterns are refused.
-/
namespace EngineTrials.Pattern
open Unicode

/-- The flags that change which texts match. -/
structure Flags where
  caseless : Bool := false
  multiline : Bool := false
  dotMatchesAll : Bool := false
  unicode : Bool := true
  crlf : Bool := false
deriving DecidableEq

namespace Flags

def change (f : Flags) : Flag × Bool → Flags
  | (.caseless, on) => { f with caseless := on }
  | (.multiline, on) => { f with multiline := on }
  | (.dotMatchesAll, on) => { f with dotMatchesAll := on }
  | (.unicode, on) => { f with unicode := on }
  | (.crlf, on) => { f with crlf := on }
  | (.swapGreed, _) => f
  | (.extended, _) => f

def changeAll (f : Flags) (changes : FlagChanges) : Flags :=
  changes.foldl change f

end Flags

/-- The code point of an ASCII letter in the other case. -/
def otherCase (n : Nat) : Nat :=
  if 0x41 ≤ n ∧ n ≤ 0x5A then n + 32 else if 0x61 ≤ n ∧ n ≤ 0x7A then n - 32 else n

/-- The set with both cases of its ASCII letters. -/
def closeUnderAsciiCase (s : CodeRanges) : CodeRanges :=
  let members := ((List.range 26).flatMap fun k => [0x41 + k, 0x61 + k]).filter fun n =>
    CodeRanges.within n s.intervals
  .union s (.ofIntervals (members.map fun n => (otherCase n, otherCase n)))

def foldCase (f : Flags) (s : CodeRanges) : CodeRanges :=
  if !f.caseless then s
  else if f.unicode then closeUnderCase s
  else closeUnderAsciiCase s

def negateIf (negated : Bool) (s : CodeRanges) : CodeRanges :=
  if negated then s.complement else s

/-- A set that a class may stand for under these flags. -/
def allowed? (f : Flags) (s : CodeRanges) : Option CodeRanges :=
  if f.unicode || s.intervals.all (fun i => i.2 ≤ 0x7F) then some s else none

def letterSet (unicode : Bool) : LetterClass → CodeRanges
  | .digit => if unicode then ofCategories ["Nd"] else .ofIntervals [(0x30, 0x39)]
  | .space =>
    if unicode then Property.whiteSpace.members else .ofIntervals [(0x09, 0x0D), (0x20, 0x20)]
  | .word => if unicode then Place.wordCharacters else Place.asciiWordCharacters

def PropertyName.set? : PropertyName → Option CodeRanges
  | .named name => named? name
  | .valued property value => valued? property value

/-- Classes are closed under case before they are negated. -/
def property? (f : Flags) (name : PropertyName) (negated : Bool) : Option CodeRanges :=
  if f.unicode then name.set?.map fun s => negateIf negated (foldCase f s) else none

def operate (operation : ClassOperation) (a b : CodeRanges) : CodeRanges :=
  match operation with
  | .intersection => .inter a b
  | .difference => .diff a b
  | .symmetricDifference => .symmetricDiff a b

mutual

/-- The set that a class term stands for. -/
def ClassTerm.set? (f : Flags) : ClassTerm → Option CodeRanges
  | .literal c => allowed? f (.single c.toNat)
  | .range a b => allowed? f (.ofIntervals [(a.toNat, b.toNat)])
  | .letter kind negated => allowed? f (negateIf negated (letterSet f.unicode kind))
  | .posix set negated => allowed? f (negateIf negated (foldCase f set))
  | .property name negated => property? f name negated
  | .bracketed negated body => do allowed? f (negateIf negated (foldCase f (← body.set? f)))
  | .union items => ClassTerm.unionSet? f items
  | .combined operation left right => do
    return operate operation (foldCase f (← left.set? f)) (foldCase f (← right.set? f))

def ClassTerm.unionSet? (f : Flags) : List ClassTerm → Option CodeRanges
  | [] => some .empty
  | t :: ts => do return .union (← t.set? f) (← ClassTerm.unionSet? f ts)

end

/-- Every character, or every character that does not end a line. -/
def dotSet (f : Flags) : CodeRanges :=
  if f.dotMatchesAll then .all
  else if f.crlf then (CodeRanges.ofIntervals [(0x0A, 0x0A), (0x0D, 0x0D)]).complement
  else (CodeRanges.single 0x0A).complement

def anchorOf (f : Flags) : Assertion → Anchor
  | .caret =>
    if !f.multiline then .textStart else if f.crlf then .crlfLineStart else .lineStart
  | .dollar =>
    if !f.multiline then .textEnd else if f.crlf then .crlfLineEnd else .lineEnd
  | .textStart => .textStart
  | .textEnd => .textEnd
  | .word edge => .word f.unicode edge

def Atom.compile? (f : Flags) : Atom → Option Program
  | .literal c asByte =>
    if !f.unicode && asByte && c.toNat > 0x7F then none
    else some (.char (foldCase f (.single c.toNat)))
  | .dot => if f.unicode then some (.char (dotSet f)) else none
  | .assertion a => some (.anchor (anchorOf f a))
  | .letter kind negated =>
    (allowed? f (negateIf negated (letterSet f.unicode kind))).map Program.char
  | .property name negated => (property? f name negated).map Program.char

mutual

/-- The program of a pattern under the flags, and the flags after it. -/
def Tree.compile? (f : Flags) : Tree → Option (Program × Flags)
  | .empty => some (.empty, f)
  | .atom a => (a.compile? f).map fun p => (p, f)
  | .bracketed negated body =>
    (ClassTerm.set? f (.bracketed negated body)).map fun s => (.char s, f)
  | .setFlags changes => some (.empty, f.changeAll changes)
  | .group changes body => do return ((← body.compile? (f.changeAll changes)).1, f)
  | .iterated least greatest body => do
    let (p, f) ← body.compile? f
    return (.iterate least greatest p, f)
  | .concat items => Tree.compileItems? f items
  | .alternation branches => Tree.compileBranches? f branches

def Tree.compileItems? (f : Flags) : List Tree → Option (Program × Flags)
  | [] => some (.empty, f)
  | t :: ts => do
    let (p, f) ← t.compile? f
    let (q, f) ← Tree.compileItems? f ts
    return (.seq p q, f)

def Tree.compileBranches? (f : Flags) : List Tree → Option (Program × Flags)
  | [] => some (.char .empty, f)
  | t :: ts => do
    let (p, f) ← t.compile? f
    let (q, f) ← Tree.compileBranches? f ts
    return (.choice p q, f)

end

end EngineTrials.Pattern
