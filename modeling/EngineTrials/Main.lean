import EngineTrials.CommandLine.Run
import EngineTrials.Shell.Launch

/-!
# The program

Takes the files of the current directory into memory, runs there with them, and writes back what was
changed. Engines are the programs and scripts that the shell of this library runs.
-/
namespace EngineTrials.Program

/-- The names of a path from the root. -/
def namesOf (path : String) : List String := FileSystem.namesOf ⟨path⟩

/-- Scripts begin with the name of their interpreter. -/
def looksExecutable (contents : Text.Bytes) : Bool := contents.take 2 == [0x23, 0x21]

/-- Adds what is in a directory, which is known by this path in memory. -/
partial def addEntries (fs : FileSystem) (path : String) (entries : Array IO.FS.DirEntry) :
    IO FileSystem := do
  let mut fs := fs
  for entry in entries do
    let name := path ++ "/" ++ entry.fileName
    if ← entry.path.isDir then
      fs := fs.addDirectory ⟨name⟩
      fs ← addEntries fs name (← entry.path.readDir)
    else
      let contents := (← IO.FS.readBinFile entry.path).toList
      fs := fs.addFile ⟨name⟩ contents (looksExecutable contents)
  return fs

def isUnchanged (before : Option FileNode) (contents : Text.Bytes) : Bool :=
  match before with
  | some (.file old _) => old == contents
  | _ => false

/-- Writes the files below a path that are not as they were. -/
partial def save (path : String) (before : Option FileNode) (after : FileNode) : IO Unit := do
  for (name, node) in after.children do
    let child := path ++ "/" ++ name
    let former := before.bind fun b => b.child? name
    match node with
    | .file contents _ =>
      if !isUnchanged former contents then
        IO.FS.createDirAll path
        IO.FS.writeBinFile child ⟨contents.toArray⟩
    | .directory _ => save child former node
    | .device => pure ()

/-- Today's date, by the time that a new file gets. -/
def today : IO Date :=
  IO.FS.withTempFile fun _ path => do
    let modified := (← path.metadata).modified
    return .ofDays (modified.sec.toNat / 86400)

/-- The variables that a run may look at. -/
def variableNames : List String :=
  ["HOME", "PATH", "NO_COLOR", Logging.Settings.filterVariable, Logging.Settings.formatVariable] ++
    ["CONFIG", "LOG_DIR", "STAGE_TIMEOUT", "BENCH_TIMEOUT", "REPETITIONS", "BIN_DIR",
      "BENCH_BINARY", "CSV_PATH"].map (Config.variableLead ++ ·)

def environment : IO (List (String × String)) :=
  variableNames.filterMapM fun name => do
    return (← IO.getEnv name).map fun value => (name, value)

def run (words : List String) : IO UInt32 := do
  let directory ← IO.currentDir
  let root := directory.toString
  let files ← addEntries (.fresh (namesOf root)) root (← directory.readDir)
  let held ← environment
  let surroundings : CommandLine.Surroundings :=
    { files
      root := ⟨root⟩
      home := (held.lookup "HOME").map Path.mk
      environment := fun name => held.lookup name
      terminal := ← (← IO.getStdout).isTty
      today := ← today }
  let launcher : Shell.Launcher := ⟨⟨root⟩, held⟩
  let outcome := CommandLine.run surroundings launcher.runner words
  save root (files.node? ⟨root⟩) ((outcome.files.node? ⟨root⟩).getD .empty)
  (← IO.getStdout).putStr outcome.stdout
  (← IO.getStderr).putStr outcome.stderr
  return outcome.exitCode.toUInt32

end EngineTrials.Program

def main (words : List String) : IO UInt32 := EngineTrials.Program.run words
