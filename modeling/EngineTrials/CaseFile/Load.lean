import EngineTrials.CaseFile.BenchmarkFile
import EngineTrials.CaseFile.TestFile
import EngineTrials.FileTree.System

/-!
# Loading case files

A case file is read as a whole; one that cannot be read is malformed like one that makes no sense.
-/
namespace EngineTrials.CaseFile

def contents (fs : FileSystem) (path : Path) : Except MalformedInput String :=
  (fs.readText path).mapError fun e => ⟨path, "unreadable: " ++ e.message⟩

def loadTest (fs : FileSystem) (path : Path) (commands : StageCommands) :
    Except MalformedInput TestCase := do
  TestFile.parse path (← contents fs path) commands

def loadBenchmark (fs : FileSystem) (path : Path) : Except MalformedInput BenchmarkFile := do
  Benchmark.parse path (← contents fs path)

end EngineTrials.CaseFile
