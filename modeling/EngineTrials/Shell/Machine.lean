import EngineTrials.FileTree.System
import EngineTrials.Shell.Pipe
import EngineTrials.Text.Digits
import EngineTrials.Text.Payload

/-!
# Shell processes

The state that commands change. A `Process` is what a shell and each of its subshells has for
itself, a `Machine` what all of them share: files, pipes and the time that has passed. An `Action`
changes both and may stop the process early.
-/
namespace EngineTrials.Shell
open Text

/-- What a descriptor leads to. -/
inductive Channel
  | null
  | pipe (index : Nat)
  /-- Writes to the end of a file. -/
  | file (path : Path)
deriving DecidableEq, Inhabited

/-- A pipe that a process keeps open until a time. -/
structure Hold where
  process : Nat
  pipe : Nat
  ends : Nat

structure Machine where
  files : FileSystem
  pipes : Array Pipe
  /-- The nanoseconds that have passed. -/
  clock : Nat := 0
  /-- Nothing is run beyond this time. -/
  horizon : Nat
  nextProcess : Nat := 4000
  /-- Pipes kept open by processes that run beside their shells. -/
  holds : List Hold := []
  /-- When the reading of the first pipe got so far that its writer had nothing left to do. -/
  inputTaken : Option Nat := none

structure Variable where
  value : ByteText
  exported : Bool := false
  readOnly : Bool := false
deriving Inhabited

/-- A command that runs beside its shell. -/
structure Job where
  process : Nat
  ends : Nat
  status : Nat
deriving Inhabited

structure Process where
  /-- What the shell calls itself. -/
  name : ByteText
  arguments : List ByteText := []
  number : Nat
  bindings : List (ByteText × Variable) := []
  functions : List (ByteText × Command) := []
  /-- The names from the root to the working directory. -/
  directory : List String
  channels : List (Nat × Channel)
  status : Nat := 0
  line : Nat := 1
  jobs : List Job := []
  lastJob : Option Nat := none
  /-- What to run instead of dying of a signal; 0 stands for the end of the shell. -/
  traps : List (Nat × ByteText) := []
  /-- Traps that were set off and are to be run. -/
  pending : List ByteText := []
  /-- What the variables of a function had as values before it. -/
  hidden : List (ByteText × Option Variable) := []
  /-- Ends at the first command that fails. -/
  stopsOnFailure : Bool := false
  /-- How many loops the command is in. -/
  loops : Nat := 0
  inFunction : Bool := false
  /-- Refuses variables without a value. -/
  refusesUnset : Bool := false
  noGlob : Bool := false
  /-- Within a condition, where failures are expected. -/
  tested : Bool := false
  /-- The status of the last command substitution of the current command. -/
  substituted : Nat := 0
deriving Inhabited

structure State where
  machine : Machine
  process : Process

/-- Why a command does not go on. -/
inductive Stop
  | exit (status : Nat)
  /-- A process is ended by a signal. -/
  | signal (process number : Nat)
  /-- Time is up. -/
  | hung
  | leaveLoop (levels : Nat)
  | nextRound (levels : Nat)
  | leaveFunction
deriving DecidableEq, Inhabited

abbrev Action := ExceptT Stop (StateM State)

/-- The bytes of a text of the library. -/
def bytesOf (s : String) : ByteText := (Utf8.encode s.toList).map Latin1.decodeByte

/-- The text that bytes stand for, as far as they stand for any. -/
def textOf (cs : ByteText) : String :=
  (Utf8.text? (Latin1.encode cs)).getD (String.ofList cs)

def decimalText (n : Int) : ByteText := (decimal n).toList

/-- What starting a command within the shell takes, and what starting a program takes. -/
def builtinTime : Nat := 20000

def programTime : Nat := 1000000

namespace Action

def process : Action Process := return (← get).process

def modifyProcess (f : Process → Process) : Action Unit :=
  modify fun s => { s with process := f s.process }

def modifyMachine (f : Machine → Machine) : Action Unit :=
  modify fun s => { s with machine := f s.machine }

/-- The files as seen from the working directory. -/
def files : Action FileSystem := do
  let s ← get
  return { s.machine.files with current := s.process.directory }

def setFiles (fs : FileSystem) : Action Unit :=
  modifyMachine fun m => { m with files := { fs with current := m.files.current } }

/-- Waits until a time. -/
def waitUntil (time : Nat) : Action Unit := do
  let m := (← get).machine
  let clock := max m.clock time
  modifyMachine fun m => { m with clock }
  if m.horizon < clock then throw .hung

def spend (duration : Nat) : Action Unit := do
  waitUntil ((← get).machine.clock + duration)

def clock : Action Nat := return (← get).machine.clock

def setStatus (status : Nat) : Action Unit :=
  modifyProcess fun p => { p with status }

def channel? (descriptor : Nat) : Action (Option Channel) := do
  return (← process).channels.lookup descriptor

def setChannel (descriptor : Nat) (c : Option Channel) : Action Unit :=
  modifyProcess fun p =>
    let others := p.channels.filter fun (d, _) => d != descriptor
    { p with channels := match c with
      | some c => (descriptor, c) :: others
      | none => others }

/-- Adds a pipe and gives its number. -/
def addPipe (p : Pipe) : Action Nat := do
  let index := (← get).machine.pipes.size
  modifyMachine fun m => { m with pipes := m.pipes.push p }
  return index

def pipeAt (index : Nat) : Action Pipe := return ((← get).machine.pipes[index]?).getD {}

def setPipe (index : Nat) (p : Pipe) : Action Unit :=
  modifyMachine fun m => { m with pipes := m.pipes.setIfInBounds index p }

/-- Writes to a channel; false if it cannot be written to. -/
def writeTo (c : Channel) (text : ByteText) : Action Bool := do
  match c with
  | .null => return true
  | .pipe index =>
    setPipe index ((← pipeAt index).write (← clock) text)
    return true
  | .file path =>
    let fs ← files
    let former := (fs.read path).toOption.getD []
    match fs.write path (former ++ Latin1.encode text) with
    | .ok fs => setFiles fs; return true
    | .error _ => return false

/-- Writes to a descriptor; false if it is closed. -/
def write (descriptor : Nat) (text : ByteText) : Action Bool := do
  match ← channel? descriptor with
  | some c => writeTo c text
  | none => return text.isEmpty

def put (text : ByteText) : Action Unit := do
  let _ ← write 1 text

/-- Writes to the error stream. -/
def complain (text : String) : Action Unit := do
  let _ ← write 2 (bytesOf text)

/-- A message of the shell itself, with its name and the line. -/
def report (message : String) : Action Unit := do
  let p ← process
  complain (textOf p.name ++ ": " ++ count p.line ++ ": " ++ message ++ "\n")

/-- A message that ends a shell. -/
def die {α : Type} (message : String) : Action α := do
  report message
  throw (.exit 2)

/-- The bytes of the input that may be left when its writer has nothing more to do. -/
def pipeCapacity : Nat := 65536

/-- Takes what was read off a pipe, and notes when the writer of the input was done. -/
def takeFromPipe (index : Nat) (t : Taken) : Action ByteText := do
  setPipe index t.pipe
  waitUntil t.time
  if index = 0 then
    let now ← clock
    modifyMachine fun m =>
      if m.inputTaken.isNone && t.pipe.size ≤ pipeCapacity then { m with inputTaken := some now }
      else m
  return t.text

/-- Reads with one of the operations on pipes. A channel for writing gives nothing. -/
def readWith (descriptor : Nat) (take : Pipe → Taken) : Action ByteText := do
  match ← channel? descriptor with
  | some (.pipe index) => takeFromPipe index (take (← pipeAt index))
  | _ => return []

def readAll (descriptor : Nat) : Action ByteText := do
  match ← channel? descriptor with
  | some (.pipe index) =>
    match (← pipeAt index).takeAll? with
    | some t => takeFromPipe index t
    | none => throw .hung
  | _ => return []

/-- The next line with its end, and whether it has one. -/
def readLine (descriptor : Nat) : Action (ByteText × Bool) := do
  match ← channel? descriptor with
  | some (.pipe index) =>
    let (t, found) := (← pipeAt index).takeLine
    return (← takeFromPipe index t, found)
  | _ => return ([], false)

/-- Repeats a text for ever. Only a pipe between two commands can take it. -/
def writeEndlessly (text : ByteText) : Action Unit := do
  match ← channel? 1 with
  | some (.pipe index) =>
    if index < 3 then throw .hung
    setPipe index { (← pipeAt index) with endless := text }
  | _ => throw .hung

/-- Notes that the pipes of this process stay open until a time. -/
def holdUntil (holder ends : Nat) : Action Unit := do
  let held := (← process).channels.filterMap fun (_, c) =>
    match c with
    | .pipe index => some ⟨holder, index, ends⟩
    | _ => none
  modifyMachine fun m => { m with holds := held ++ m.holds }

/-- When nobody can write to a pipe any more, given when its own writer ended. -/
def closingTime (m : Machine) (index ends : Nat) : Nat :=
  (m.holds.filter fun h => h.pipe == index).foldl (fun t h => max t h.ends) ends

/-- Opens a pipe for reading whose writer ended at a time. -/
def turnPipe (index ends : Nat) : Action Unit := do
  let closes := closingTime (← get).machine index ends
  setPipe index { (← pipeAt index).turn with closes }

/-- Sets the clock, also back: what follows happened beside what was run before. -/
def resumeAt (clock : Nat) : Action Unit := modifyMachine fun m => { m with clock }

/-- A number for a new process. -/
def freshNumber : Action Nat := do
  let number := (← get).machine.nextProcess
  modifyMachine fun m => { m with nextProcess := number + 1 }
  return number

/-- How a process ended. -/
inductive Ending
  | exited (status : Nat)
  | signalled (number : Nat)
  | hung
deriving DecidableEq, Inhabited

/-- Runs an action in a process of its own and comes back to this one. Signals to another process
go on to it. -/
def inProcess (p : Process) (body : Action Unit) : Action Ending := do
  let own ← process
  modifyProcess fun _ => p
  let ending ← tryCatch (do body; return .exited (← process).status) fun stop =>
    match stop with
    | .exit status => return .exited status
    | .signal target number =>
      if target = p.number ∧ target ≠ own.number then return .signalled number else throw stop
    | .hung => return .hung
    | _ => return .exited (← process).status
  modifyProcess fun _ => own
  return ending

end Action

end EngineTrials.Shell
