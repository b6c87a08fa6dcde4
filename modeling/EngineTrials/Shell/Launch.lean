import EngineTrials.Engine.Life
import EngineTrials.Engine.Runner
import EngineTrials.Shell.Evaluation

/-!
# Launching programs

A runner that starts programs in a working directory of a file system: those the shell knows by
name, and shell scripts by path. What a program does is computed up to the limit of the call; its
supervisor then sees it as it would see any program.
-/
namespace EngineTrials.Shell
open Text Shell.Action

/-- Where programs are started and what they find there. -/
structure Launcher where
  directory : Path
  /-- Variables that every program gets. -/
  environment : List (String × String) := []

namespace Launcher

/-- Why a program cannot be started. -/
inductive Refusal
  | file (e : FileError)
  /-- A program or argument that holds the character zero. -/
  | nulByte
  | notExecutable
deriving DecidableEq

def Refusal.message : Refusal → String
  | file e => e.message
  | nulByte => "nul byte found in provided data"
  | notExecutable => "Exec format error (os error 8)"

/-- Whether there is a program to start, seen from its working directory. -/
def checkProgram (fs : FileSystem) (program : ByteText) : Except Refusal Unit := do
  if program.contains '/' then
    if (Utility.ofPath? program).isSome then return
    match fs.locate ⟨textOf program⟩ with
    | .error e => .error (.file e)
    | .ok trail =>
      match fs.nodeAt trail with
      | .file contents true =>
        match interpreter? (contents.map Latin1.decodeByte) with
        | none => .error .notExecutable
        | some words =>
          if (Utility.ofPath? (words.headD [])).isSome then return else .error (.file .notFound)
      | _ => .error (.file .permission)
  else if Utility.isKnown (textOf program) then return
  else .error (.file .notFound)

/-- The names of the working directory, if programs can be started there. -/
def workingDirectory (l : Launcher) (fs : FileSystem) : Except Refusal (List String) :=
  match fs.locate l.directory with
  | .error e => .error (.file e)
  | .ok trail =>
    if (fs.nodeAt trail).isDirectory then .ok (FileSystem.trailNames trail)
    else .error (.file .notDirectory)

/-- Commands and programs can be nested this deeply. -/
def depthLimit : Nat := 20000

/-- The process that a call starts. Its number is that of no other process. -/
def processOf (l : Launcher) (directory : List String) (command : EngineTrials.Command) : Process :=
  { name := bytesOf command.program.text
    number := 3999
    directory
    bindings := l.environment.map fun (name, value) =>
      (bytesOf name, { value := bytesOf value, exported := true })
    channels := [(0, .pipe 0), (1, .pipe 1), (2, .pipe 2)] }

/-- The life of a program that ended like this, or not at all, and left this machine behind. -/
def lifeOf (machine : Machine) (ending : Ending) : Life :=
  let ends := machine.clock
  let bytes (index : Nat) : Bytes :=
    Latin1.encode (Pipe.textOf ((machine.pipes[index]?).getD {}).inOrder)
  let closes (index : Nat) : Option Nat :=
    some (closingTime machine index ends)
  let ended (code : Int) : Life :=
    { ending := some (ends, code)
      inputTaken := some (machine.inputTaken.getD ends)
      stdout := bytes 1, stdoutCloses := closes 1
      stderr := bytes 2, stderrCloses := closes 2 }
  match ending with
  | .exited status => ended status
  | .signalled number => ended (-number)
  | .hung => ⟨none, none, [], none, [], none⟩

/-- What the program of a call does within its limit, and the files after it. -/
def live (l : Launcher) (fs : FileSystem) (directory : List String) (call : Call) :
    Life × FileSystem :=
  let input := (payload call.input).map Latin1.decodeByte
  let machine : Machine :=
    { files := fs, pipes := #[.ofText input, {}, {}], horizon := call.timeout.nanoseconds
      inputTaken := if input.length ≤ pipeCapacity then some 0 else none }
  let program := bytesOf call.command.program.text
  let arguments := call.command.arguments.map bytesOf
  let outer : Process := { name := [], number := 0, directory, channels := [] }
  let start : Action Ending :=
    inProcess (l.processOf directory call.command) (runProgram depthLimit program arguments [])
  let (ending, state) := start.run ⟨machine, outer⟩
  let ending := match ending with
    | .ok e => e
    | .error _ => .hung
  (lifeOf state.machine ending, { state.machine.files with current := fs.current })

/-- Starts the program of a call and supervises it. -/
def supervise (l : Launcher) (call : Call) (fs : FileSystem) : Supervisor.Verdict × FileSystem :=
  let refuse (r : Refusal) : Supervisor.Verdict × FileSystem :=
    (.answered (.error (.launch call.command.program.text r.message)), fs)
  let texts := call.command.program.text :: call.command.arguments
  if texts.any fun t => t.toList.contains '\x00' then refuse .nulByte
  else
    match l.workingDirectory fs with
    | .error r => refuse r
    | .ok names =>
      match checkProgram { fs with current := names } (bytesOf call.command.program.text) with
      | .error r => refuse r
      | .ok () =>
        let (life, fs) := l.live fs names call
        (life.supervised call.timeout, fs)

/-- Answers calls by starting programs. A runner has an answer to every call, so a deadline that the
clock cannot show, for which there is none, is given as a failure. -/
def runner (l : Launcher) : Runner FileSystem := fun call fs =>
  match l.supervise call fs with
  | (.answered answer, fs) => (answer, fs)
  | (.beyondClock, fs) => (.error (.io "deadline out of range"), fs)

end Launcher

end EngineTrials.Shell
