import EngineTrials.Shell.Machine

/-!
# Opening files

What a path becomes a channel to. Some device paths stand for descriptors that are already open.
-/
namespace EngineTrials.Shell
open Text Shell.Action

/-- The descriptor that a device path stands for. -/
def deviceDescriptor? (path : ByteText) : Option Nat :=
  if path = "/dev/stdin".toList then some 0
  else if path = "/dev/stdout".toList then some 1
  else if path = "/dev/stderr".toList then some 2
  else if "/dev/fd/".toList.isPrefixOf path then natural? 10 (path.drop 8)
  else none

/-- Why a path cannot be opened, or what it leads to. -/
abbrev Opened := Except FileError Channel

def openDescriptor (n : Nat) : Action Opened := do
  return match ← channel? n with
    | some c => .ok c
    | none => .error .notFound

def openForReading (path : ByteText) : Action Opened := do
  match deviceDescriptor? path with
  | some n => openDescriptor n
  | none =>
    if path = "/dev/zero".toList then
      return .ok (.pipe (← addPipe { endless := ['\x00'] }))
    match (← files).read ⟨textOf path⟩ with
    | .error e => return .error e
    | .ok contents =>
      return .ok (.pipe (← addPipe (.ofText (contents.map Latin1.decodeByte))))

/-- The path from the root, which means the same in every directory. -/
def absolute (path : ByteText) : Action Path := do
  let names := (← process).directory
  let directory : Path := ⟨"/" ++ join "/" names⟩
  return directory.join ⟨textOf path⟩

/-- Opens a file that is emptied first unless `appending`. -/
def openForWriting (path : ByteText) (appending : Bool) : Action Opened := do
  match deviceDescriptor? path with
  | some n => openDescriptor n
  | none =>
    let fs ← files
    let target : Path := ⟨textOf path⟩
    match fs.node? target with
    | some .device => return .ok .null
    | some (.directory _) => return .error .isDirectory
    | found =>
      if appending && found.isSome then return .ok (.file (← absolute path))
      match fs.write target [] with
      | .ok fs => setFiles fs; return .ok (.file (← absolute path))
      | .error e => return .error e

/-- What a program writes about a path that it cannot use. -/
def complainAbout (program : String) (path : ByteText) (e : FileError) : Action Unit :=
  complain (program ++ ": " ++ textOf path ++ ": " ++ e.reason ++ "\n")

/-- Does something with each file as input, or with the input that is there if no file is named. The
status is 1 if a file cannot be opened. -/
def eachInput (program : String) (operands : List ByteText) (body : ByteText → Action Unit) :
    Action Nat := do
  if operands.isEmpty then body ['-']; return 0
  let own ← channel? 0
  let mut status := 0
  for operand in operands do
    if operand = ['-'] then
      setChannel 0 own
      body operand
    else
      match ← openForReading operand with
      | .ok c =>
        setChannel 0 (some c)
        body operand
      | .error e =>
        complainAbout program operand e
        status := 1
  setChannel 0 own
  return status

/-- The text of all inputs, one after the other, and the status. -/
def allInput (program : String) (operands : List ByteText) : Action (ByteText × Nat) := do
  let index ← addPipe {}
  let status ← eachInput program operands fun _ => do
    let text ← readAll 0
    setPipe index ((← pipeAt index).write 0 text)
  return (Pipe.textOf (← pipeAt index).inOrder, status)

/-- Options of one letter before or between the operands, with their values. A letter of `valued`
takes the rest of its word or the next word as value. -/
def options (valued : List Char) : List ByteText → List (Char × ByteText) × List ByteText
  | [] => ([], [])
  | word :: rest =>
    if word = ['-', '-'] then ([], rest)
    else
      match word with
      | '-' :: letter :: letters =>
        let rec spread : Char → ByteText → List (Char × ByteText) × Option Char
          | c, more =>
            if valued.contains c then
              if more.isEmpty then ([], some c) else ([(c, more)], none)
            else
              match more with
              | [] => ([(c, [])], none)
              | d :: more =>
                let (found, open?) := spread d more
                ((c, []) :: found, open?)
        let (found, open?) := spread letter letters
        match open?, rest with
        | some c, value :: rest =>
          let (more, operands) := options valued rest
          (found ++ (c, value) :: more, operands)
        | some c, [] => (found ++ [(c, [])], [])
        | none, rest =>
          let (more, operands) := options valued rest
          (found ++ more, operands)
      | _ =>
        let (found, operands) := options valued rest
        (found, word :: operands)

/-- The lines of a text; a last line without an end counts as one. -/
def linesOf (text : ByteText) : List ByteText := inputLines text

/-- Lines with an end each. -/
def unlines (lines : List ByteText) : ByteText := lines.flatMap (· ++ ['\n'])

end EngineTrials.Shell
