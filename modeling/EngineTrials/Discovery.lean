import EngineTrials.Glob.Walk

/-!
# Discovery of case files

The regular files below a root that match a pattern, in ascending order of paths. Files whose name
begins with an underscore are schemas, not cases.
-/
namespace EngineTrials.Discovery
open Text

/-- Case files have the extension `yml`. -/
def defaultPattern : String := "**/[!_]*.yml"

/-- The root stands for itself; the pattern continues it. -/
def fullPattern (root : Path) (pattern : String) : List Char :=
  Glob.escape root.chars ++ ['/'] ++ pattern.toList

def isSchema (p : Path) : Bool :=
  match p.fileName? with
  | some name => name.toList.head? == some '_'
  | none => false

def badPatternMessage (pattern : String) (e : Glob.PatternError) : String :=
  "bad glob '" ++ pattern ++ "': " ++ e.message

/-- The case files below a root. -/
def caseFiles (fs : FileSystem) (root : Path) (pattern : String) :
    Except Glob.PatternError (List Path) := do
  let p ← Glob.Pattern.read (fullPattern root pattern)
  let files := (p.select fs).filter fun l => l.node.isRegular && !isSchema l.path
  return Path.sort (files.map Glob.Location.path)

/-- Distinct names in ascending order. -/
def distinctSorted (names : List String) : List String :=
  (names.mergeSort fun a b => decide (a ≤ b)).eraseReps

/-- The case files of each suite in turn. -/
def suiteFiles (fs : FileSystem) (root : Path) :
    List String → Except Glob.PatternError (List Path)
  | [] => .ok []
  | suite :: rest => do
    return (← caseFiles fs (root.join ⟨suite⟩) defaultPattern) ++ (← suiteFiles fs root rest)

/-- The benchmark files of the suites named, in ascending order of suites, or of all if none is. -/
def benchmarkFiles (fs : FileSystem) (root : Path) (suites : List String) :
    Except Glob.PatternError (List Path) :=
  if suites.isEmpty then caseFiles fs root defaultPattern
  else suiteFiles fs root (distinctSorted suites)

end EngineTrials.Discovery
