import EngineTrials.Benchmark.Date
import EngineTrials.CommandLine.Arguments
import EngineTrials.CommandLine.Fault
import EngineTrials.Engine.Runner

/-!
# Surroundings of a run

What a run finds, and what it leaves behind.
-/
namespace EngineTrials.CommandLine

structure Surroundings where
  files : FileSystem
  /-- The directory that the run is started in. -/
  root : Path
  home : Option Path := none
  environment : String → Option String := fun _ => none
  /-- Whether somebody watches the output. -/
  terminal : Bool := false
  today : Date

/-- What was written so far, and the files as they are by then. -/
structure Progress where
  files : FileSystem
  stdout : String := ""
  stderr : String := ""

namespace Progress

/-- Writes a line or several to the output, without the line ends it may close with. -/
def print (p : Progress) (text : String) : Progress :=
  let bare := Text.dropTrailing (· == '\n') text.toList
  if bare.isEmpty then p else { p with stdout := p.stdout ++ String.ofList bare ++ "\n" }

/-- Writes to the error stream as it stands. -/
def note (p : Progress) (text : String) : Progress := { p with stderr := p.stderr ++ text }

end Progress

/-- A finished run: the verdict, or why there is none. -/
structure Finished where
  progress : Progress
  verdict : Except Fault Bool

/-- Arguments for the engine, from the value of an option. -/
def splitArguments (text : String) : List String := Text.wordsOf text

end EngineTrials.CommandLine
