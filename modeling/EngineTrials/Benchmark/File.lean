import EngineTrials.Engine.Command
import EngineTrials.Regex

/-!
# Benchmark files

Named queries that are timed against a schema of their own, and the pattern of the lines that hold
timings. The schema lies next to the file, as `data/schema.sql`.
-/
namespace EngineTrials

structure BenchmarkCase where
  name : String
  query : String
deriving DecidableEq, Inhabited

structure BenchmarkFile where
  path : Path
  /-- Tells several files of one benchmark apart. -/
  name : String
  suite : String
  benchmark : String
  description : String
  pattern : Regex
  cases : List BenchmarkCase
deriving Inhabited

namespace BenchmarkFile

/-- A file is named by its path without directories and extension. -/
def nameOf (path : Path) : String := path.fileStem?.getD ""

def schemaPath (f : BenchmarkFile) : Path :=
  ((f.path.parent?.getD ⟨"."⟩).join ⟨"data"⟩).join ⟨"schema.sql"⟩

end BenchmarkFile

end EngineTrials
