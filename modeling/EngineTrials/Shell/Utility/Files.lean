import EngineTrials.Shell.Utility.Streams

/-!
# Programs that work on files

`ls`, `touch`, `mkdir`, `rm`, `cp`, `mv`, `chmod`, `basename` and `dirname`.
-/
namespace EngineTrials.Shell.Utility
open Text Shell.Action

/-- Whether an option was given. -/
def given (found : List (Char × ByteText)) (letter : Char) : Bool :=
  found.any fun (c, _) => c == letter

def missingOperand (program : String) : Action Nat := do
  complain (program ++ ": missing operand\nTry '" ++ program ++ " --help' for more information.\n")
  return 1

/-- What a program writes about a path between quotes. -/
def complainThat (program what : String) (path : ByteText) (e : FileError) : Action Unit :=
  complain (program ++ ": " ++ what ++ " '" ++ textOf path ++ "': " ++ e.reason ++ "\n")

/-- Does something to each operand that changes the files; the status is 1 if any of it fails. -/
def eachPath (operands : List ByteText)
    (change : FileSystem → ByteText → Except (FileSystem → Action Unit) FileSystem) :
    Action Nat := do
  let mut status := 0
  for operand in operands do
    let fs ← files
    match change fs operand with
    | .ok fs => setFiles fs
    | .error complaint =>
      complaint fs
      status := 1
  return status

/-- The names of a directory as they are listed. -/
def listing (found : List (Char × ByteText)) (node : FileNode) : List ByteText :=
  let names := (node.children.map Prod.fst).map bytesOf
  if given found 'a' then ['.'] :: ['.', '.'] :: names
  else if given found 'A' then names
  else names.filter fun n => n.head? != some '.'

def ls : Program := fun arguments => do
  let (found, operands) := options [] arguments
  let operands := if operands.isEmpty then [['.']] else operands.mergeSort inByteOrder
  let fs ← files
  let mut status := 0
  let mut named : List ByteText := []
  let mut directories : List (ByteText × List ByteText) := []
  for operand in operands do
    match fs.locate ⟨textOf operand⟩ with
    | .error e =>
      complainThat "ls" "cannot access" operand e
      status := 2
    | .ok trail =>
      match fs.nodeAt trail with
      | .directory entries =>
        if given found 'd' then named := named ++ [operand]
        else directories := directories ++ [(operand, listing found (.directory entries))]
      | _ => named := named ++ [operand]
  put (unlines named)
  let mut first := named.isEmpty
  for (name, names) in directories do
    if operands.length > 1 then
      put ((if first then [] else ['\n']) ++ name ++ [':', '\n'])
    first := false
    put (unlines names)
  return status

def touch : Program := fun arguments => do
  let (found, operands) := options [] arguments
  if operands.isEmpty then
    complain "touch: missing file operand\nTry 'touch --help' for more information.\n"
    return 1
  eachPath operands fun fs operand =>
    let path : Path := ⟨textOf operand⟩
    if (fs.node? path).isSome || given found 'c' then .ok fs
    else
      match fs.write path [] with
      | .ok fs => .ok fs
      | .error e => .error fun _ => complainThat "touch" "cannot touch" operand e

def mkdir : Program := fun arguments => do
  let (found, operands) := options ['m'] arguments
  if operands.isEmpty then return ← missingOperand "mkdir"
  eachPath operands fun fs operand =>
    let path : Path := ⟨textOf operand⟩
    match if given found 'p' then fs.makeDirectories path else fs.makeDirectory path with
    | .ok fs => .ok fs
    | .error e => .error fun _ => complainThat "mkdir" "cannot create directory" operand e

def rm : Program := fun arguments => do
  let (found, operands) := options [] arguments
  let forced := given found 'f'
  if operands.isEmpty && !forced then return ← missingOperand "rm"
  eachPath operands fun fs operand =>
    let path : Path := ⟨textOf operand⟩
    let refuse (e : FileError) : Except (FileSystem → Action Unit) FileSystem :=
      .error fun _ => complainThat "rm" "cannot remove" operand e
    match fs.locate path with
    | .error .notFound => if forced then .ok fs else refuse .notFound
    | .error e => refuse e
    | .ok trail =>
      if (fs.nodeAt trail).isDirectory && !(given found 'r' || given found 'R') then
        refuse .isDirectory
      else
        match fs.remove path with
        | .ok fs => .ok fs
        | .error e => refuse e

def rmdir : Program := fun arguments => do
  eachPath (options [] arguments).2 fun fs operand =>
    let refuse (reason : String) : Except (FileSystem → Action Unit) FileSystem :=
      .error fun _ =>
        complain ("rmdir: failed to remove '" ++ textOf operand ++ "': " ++ reason ++ "\n")
    match fs.locate ⟨textOf operand⟩ with
    | .error e => refuse e.reason
    | .ok trail =>
      match fs.nodeAt trail with
      | .directory .nil =>
        match fs.remove ⟨textOf operand⟩ with
        | .ok fs => .ok fs
        | .error e => refuse e.reason
      | .directory _ => refuse "Directory not empty"
      | _ => refuse FileError.notDirectory.reason

/-- Where a file goes: into a directory under its own name, or to the path itself. -/
def destination (fs : FileSystem) (source target : Path) : Path :=
  if fs.isDirectory target then target.join ⟨source.fileName?.getD ""⟩ else target

/-- Copies files to the last operand, and takes them away where they were if `moves`. -/
def transfer (program : String) (moves : Bool) : Program := fun arguments => do
  let (found, operands) := options [] arguments
  match operands.getLast?, operands.dropLast with
  | some target, first :: others =>
    eachPath (first :: others) fun fs operand =>
      let source : Path := ⟨textOf operand⟩
      let goal := destination fs source ⟨textOf target⟩
      let refuse (e : FileError) : Except (FileSystem → Action Unit) FileSystem :=
        .error fun _ => complainThat program "cannot stat" operand e
      match fs.locate source with
      | .error e => refuse e
      | .ok trail =>
        let node := fs.nodeAt trail
        if node.isDirectory && !moves && !(given found 'r' || given found 'R') then
          .error fun _ => complain (program ++ ": -r not specified; omitting directory '" ++
            textOf operand ++ "'\n")
        else
          match fs.splitLast goal with
          | .error e => refuse e
          | .ok (above, name, _) =>
            let names := FileSystem.trailNames above ++ [name]
            if moves then
              match fs.remove source with
              | .ok without => .ok (without.graft names fs (FileSystem.trailNames trail))
              | .error e => refuse e
            else .ok (fs.graft names fs (FileSystem.trailNames trail))
  | _, _ =>
    complain (program ++ ": missing file operand\nTry '" ++ program ++
      " --help' for more information.\n")
    return 1

/-- Files can be made executable or not; other permissions are not kept. -/
def chmod : Program := fun arguments => do
  match arguments with
  | mode :: operands =>
    let executable : Option Bool :=
      if mode.contains '+' then (if mode.contains 'x' then some true else none)
      else if mode.contains '-' then (if mode.contains 'x' then some false else none)
      else some (mode.any fun c => ['1', '3', '5', '7'].contains c)
    eachPath operands fun fs operand =>
      let path : Path := ⟨textOf operand⟩
      match fs.locate path, executable with
      | .error e, _ => .error fun _ => complainThat "chmod" "cannot access" operand e
      | .ok trail, some x =>
        match fs.nodeAt trail with
        | .file contents _ =>
          .ok (fs.put (FileSystem.trailNames trail) (.file contents x) trivial)
        | _ => .ok fs
      | _, none => .ok fs
  | [] => missingOperand "chmod"

/-- A path without the slashes at its end, unless it is all slashes. -/
def withoutEndSlashes (path : ByteText) : ByteText :=
  let bare := dropTrailing (· == '/') path
  if bare.isEmpty && !path.isEmpty then ['/'] else bare

def lastName (path : ByteText) : ByteText :=
  let bare := withoutEndSlashes path
  if bare == ['/'] then bare else ((pieces (· == '/') bare).getLast?).getD []

def basename : Program := fun arguments => do
  match (options ['s'] arguments).2 with
  | [] => missingOperand "basename"
  | [path] => put (lastName path ++ ['\n']); return 0
  | path :: suffix :: _ =>
    let name := lastName path
    let cut :=
      if suffix.isSuffixOf name && suffix != name then name.take (name.length - suffix.length)
      else name
    put (cut ++ ['\n'])
    return 0

def dirname : Program := fun arguments => do
  if arguments.isEmpty then return ← missingOperand "dirname"
  for path in arguments do
    let bare := withoutEndSlashes path
    let above := (pieces (· == '/') bare).dropLast
    let directory := if bare == ['/'] then ['/'] else
      if above.isEmpty then ['.'] else
      let joined := glue ['/'] above
      if joined.all (· == '/') then ['/'] else withoutEndSlashes joined
    put (directory ++ ['\n'])
  return 0

end EngineTrials.Shell.Utility
