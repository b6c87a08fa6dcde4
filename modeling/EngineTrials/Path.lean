import EngineTrials.Text.Pieces

/-!
# Paths

A path is its text; nothing is normalised. `components` is the view that comparison, prefixes and
file names go by: a leading root or `.`, then the names and `..` between slashes, where empty pieces
and every later `.` say nothing.
-/
namespace EngineTrials

structure Path where
  text : String
deriving DecidableEq, Inhabited

namespace Path
open Text

inductive Component
  | root
  | current
  | parent
  | name (name : String)
deriving DecidableEq

def chars (p : Path) : List Char := p.text.toList

def ofChars (cs : List Char) : Path := ⟨String.ofList cs⟩

def isAbsolute (p : Path) : Bool :=
  p.chars.head? == some '/'

/-- The text between slashes, without the leading slash of an absolute path. -/
def segments (p : Path) : List (List Char) :=
  pieces (· == '/') (if p.isAbsolute then p.chars.tail else p.chars)

/-- A segment that names no component when it is not the first. -/
def isTrivial (segment : List Char) : Bool :=
  segment == [] || segment == ['.']

/-- A relative path may open with `.`, which is then a component. -/
def opensCurrent (p : Path) : Bool :=
  !p.isAbsolute && p.segments.head? == some ['.']

def componentOf (segment : List Char) : Component :=
  if segment == ['.', '.'] then .parent else .name (String.ofList segment)

def components (p : Path) : List Component :=
  let body := (p.segments.filter fun s => !isTrivial s).map componentOf
  if p.isAbsolute then .root :: body
  else if p.opensCurrent then .current :: body
  else body

/-- An absolute right side replaces the left; otherwise one slash is put between the two unless
the left is empty or ends in one. -/
def join (p q : Path) : Path :=
  if q.isAbsolute then q
  else if p.chars.isEmpty || p.chars.getLast? == some '/' then ⟨p.text ++ q.text⟩
  else ⟨p.text ++ "/" ++ q.text⟩

/-- The name the path ends in, if its last component is a name. -/
def fileName? (p : Path) : Option String :=
  match p.components.getLast? with
  | some (.name n) => some n
  | _ => none

/-- Segments up to the last one that names a component; a first `.` counts as naming one. -/
def trimSegments (p : Path) (segments : List (List Char)) : List (List Char) :=
  if p.opensCurrent then
    match segments with
    | [] => []
    | first :: rest => first :: dropTrailing isTrivial rest
  else dropTrailing isTrivial segments

/-- The path without its last component, or nothing for the root and the empty path. -/
def parent? (p : Path) : Option Path :=
  match p.components.getLast? with
  | none | some .root => none
  | some _ =>
    let rest := trimSegments p (trimSegments p p.segments).dropLast
    some (ofChars ((if p.isAbsolute then ['/'] else []) ++ glue ['/'] rest))

/-- The file name up to its last dot; a name whose only dot is its first character is all stem. -/
def fileStem? (p : Path) : Option String :=
  p.fileName?.map fun n =>
    let parts := pieces (· == '.') n.toList
    let stem := glue ['.'] parts.dropLast
    if stem.isEmpty then n else String.ofList stem

/-- Drops segments until `n` components are gone. -/
def dropComponents : Nat → List (List Char) → List (List Char)
  | 0, segments => segments
  | _ + 1, [] => []
  | n + 1, s :: rest => if isTrivial s then dropComponents (n + 1) rest else dropComponents n rest

/-- What follows `base` in the path, if the components of `base` come first in it. -/
def stripPrefix? (base p : Path) : Option Path :=
  if base.components.isPrefixOf p.components then
    let n := base.components.length
    if n = 0 then some (ofChars
      ((if p.isAbsolute then ['/'] else []) ++ glue ['/'] (trimSegments p p.segments)))
    else
      let taken := if p.isAbsolute || p.opensCurrent then n - 1 else n
      let rest := dropComponents taken (if p.opensCurrent then p.segments.tail else p.segments)
      some (ofChars (glue ['/'] (dropTrailing isTrivial (rest.dropWhile isTrivial))))
  else none

/-- The path below `base` as seen from there; other paths are left alone. -/
def relativeTo (base p : Path) : Path :=
  (stripPrefix? base p).getD p

namespace Component

def rank : Component → Nat
  | .root => 0
  | .current => 1
  | .parent => 2
  | .name _ => 3

def nameText : Component → String
  | .name n => n
  | _ => ""

/-- Root, `.`, `..`, then names by code points. -/
def compare (a b : Component) : Ordering :=
  (Ord.compare a.rank b.rank).then (Ord.compare a.nameText b.nameText)

end Component

/-- Lexicographic order of lists of components; a proper beginning comes first. -/
def compareComponents : List Component → List Component → Ordering
  | [], [] => .eq
  | [], _ :: _ => .lt
  | _ :: _, [] => .gt
  | a :: as, b :: bs => (Component.compare a b).then (compareComponents as bs)

/-- The order in which discovered files are run and reported. -/
def compare (p q : Path) : Ordering :=
  compareComponents p.components q.components

def le (p q : Path) : Bool :=
  (compare p q).isLE

def sort (ps : List Path) : List Path :=
  ps.mergeSort le

end Path

end EngineTrials
