import EngineTrials.FileTree.System
import EngineTrials.Glob.Pattern

/-!
# Walking a tree by a pattern

The components of a pattern are matched against the names on the way down, so a node is met once for
every way in which `**` can be spread over the directories above it. A component without wildcards
is looked up rather than matched, and may then be `.` or `..`.
-/
namespace EngineTrials.Glob
open Text

/-- A node met on a walk: the path by which it was reached and the nodes above it. -/
structure Location where
  path : Path
  node : FileNode
  above : List FileNode

namespace Location

/-- At the current directory, names are not joined to anything. -/
def atCurrent (l : Location) : Bool :=
  l.path.components == [.current]

def pathOf (l : Location) (name : String) : Path :=
  if l.atCurrent then ⟨name⟩ else l.path.join ⟨name⟩

/-- The entries of a directory. -/
def children (l : Location) : List Location :=
  l.node.children.map fun (name, node) => ⟨l.pathOf name, node, l.node :: l.above⟩

mutual

/-- Everything below a node, each directory before what it holds. -/
def descendants (path : Path) (bare : Bool) (above : List FileNode) : FileNode → List Location
  | .directory entries =>
    descendantEntries path bare (.directory entries :: above) entries
  | _ => []

def descendantEntries (path : Path) (bare : Bool) (above : List FileNode) :
    Entries → List Location
  | .nil => []
  | .cons name node rest =>
    let here : Path := if bare then ⟨name⟩ else path.join ⟨name⟩
    ⟨here, node, above⟩ ::
      (descendants here false above node ++ descendantEntries path bare above rest)

end

/-- Everything below a location. -/
def below (l : Location) : List Location :=
  descendants l.path l.atCurrent l.above l.node

/-- Where `.` or `..` leads. The directory above the root is the root. -/
def special (l : Location) (name : String) (path : Path) : Location :=
  if name = ".." then
    match l.above with
    | parent :: above => ⟨path, parent, above⟩
    | [] => { l with path }
  else { l with path }

/-- Where a component without wildcards leads. -/
def lookup? (l : Location) (name : String) : Option Location :=
  let path := l.pathOf name
  if !l.node.isDirectory then none
  else if name = "." ∨ name = ".." then some (l.special name path)
  else if name = "" then if l.atCurrent then none else some { l with path }
  else (l.node.child? name).map fun node => ⟨path, node, l.node :: l.above⟩

/-- The name that components are matched against. -/
def name (l : Location) : String :=
  l.path.fileName?.getD ""

end Location

/-- `.` and `..` are matched only by a component that begins with a point. -/
def specials (component : Component) (l : Location) : List Location :=
  if l.node.isDirectory && component.head? == some (.char '.') then
    [".", ".."].filterMap fun s =>
      if matchesName component s then some (l.special s (l.path.join ⟨s⟩)) else none
  else []

/-- The nodes that the components lead to from a location. -/
def walk : List Component → Location → List Location
  | [], _ => []
  | component :: rest, here =>
    let proceed (next : Location) : List Location :=
      if rest.isEmpty then [next] else walk rest next
    match literal? component with
    | some name => ((here.lookup? (String.ofList name)).map proceed).getD []
    | none =>
      if isRecursive component then
        match rest with
        | [] => here.below.filter fun l => l.node.isDirectory
        | next :: rest =>
          if isRecursive next then walk (next :: rest) here
          else here.below.flatMap fun l =>
            if matchesName next l.name then if rest.isEmpty then [l] else walk rest l else []
      else
        (here.children.filter fun l => matchesName component l.name).flatMap proceed ++
          (specials component here).flatMap proceed

/-- The nodes of a file system that a pattern selects. -/
def Pattern.select (p : Pattern) (fs : FileSystem) : List Location :=
  let trail := if p.absolute then [] else fs.currentTrail
  let above := trail.tail.map Prod.snd ++ (if trail.isEmpty then [] else [fs.root])
  let start : Location := ⟨if p.absolute then ⟨"/"⟩ else ⟨"."⟩, fs.nodeAt trail, above⟩
  (walk p.components start).filter fun l => !p.directoriesOnly || l.node.isDirectory

end EngineTrials.Glob
