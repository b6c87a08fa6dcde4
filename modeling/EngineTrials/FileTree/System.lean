import EngineTrials.FileTree.WellFormed
import EngineTrials.Path
import EngineTrials.Text.Digits

/-!
# File systems

A tree and the directory in it that relative paths start from. A path is followed name by name; `.`
and empty names stay, `..` goes up, and anything but the last name has to be a directory.
-/
namespace EngineTrials
open Text

inductive FileError
  | notFound
  | notDirectory
  | isDirectory
  | alreadyExists
  | permission
  | nameTooLong
  | nulInName
  | notText
deriving DecidableEq, Inhabited

namespace FileError

/-- What is wrong, in the words of the system. -/
def reason : FileError → String
  | notFound => "No such file or directory"
  | notDirectory => "Not a directory"
  | isDirectory => "Is a directory"
  | alreadyExists => "File exists"
  | permission => "Permission denied"
  | nameTooLong => "File name too long"
  | nulInName => "file name contained an unexpected NUL byte"
  | notText => "stream did not contain valid UTF-8"

/-- The number that the system has for it, unless it was found out without the system. -/
def number? : FileError → Option Nat
  | notFound => some 2
  | permission => some 13
  | alreadyExists => some 17
  | notDirectory => some 20
  | isDirectory => some 21
  | nameTooLong => some 36
  | nulInName => none
  | notText => none

def message (e : FileError) : String :=
  match e.number? with
  | some n => e.reason ++ " (os error " ++ count n ++ ")"
  | none => e.reason

end FileError

structure FileSystem where
  root : FileNode
  /-- The names that lead from the root to the current directory. -/
  current : List String
  wellFormed : root.WellFormed

/-- The nodes passed on the way from the root, with their names, the last one first. -/
abbrev Trail := List (String × FileNode)

namespace FileSystem

/-- Puts a node at the end of some names, together with the directories on the way. Where a name is
none that an entry can have, nothing is put. -/
def put (fs : FileSystem) (names : List String) (node : FileNode) (h : node.WellFormed) :
    FileSystem :=
  if hnames : ∀ name ∈ names, IsEntryName name then
    ⟨fs.root.place names node, fs.current, fs.wellFormed.place hnames h⟩
  else fs

/-- Puts what another file system has at the end of its names. -/
def graft (fs : FileSystem) (names : List String) (other : FileSystem) (source : List String) :
    FileSystem :=
  match h : other.root.descend? source with
  | some node => fs.put names node (other.wellFormed.descend h).2
  | none => fs

/-- Takes out what is at the end of some names. -/
def takeOut (fs : FileSystem) (names : List String) : FileSystem :=
  ⟨fs.root.takeOut names, fs.current, fs.wellFormed.takeOut names⟩

/-- A file system that holds a null device and nothing else. -/
def bare : FileSystem :=
  let devices := FileNode.directory (.cons "null" .device .nil)
  ⟨.directory (.cons "dev" devices .nil), [], by decide⟩

/-- A file system that holds, besides, an empty current directory at these names. -/
def fresh (current : List String) : FileSystem :=
  if current.isEmpty then bare else { bare.put current .empty trivial with current }

/-- Names may have at most this many bytes. -/
def nameLimit : Nat := 255

/-- Paths must have fewer bytes. -/
def pathLimit : Nat := 4096

def nodeAt (fs : FileSystem) (trail : Trail) : FileNode :=
  match trail with
  | [] => fs.root
  | (_, node) :: _ => node

/-- Follows one name. -/
def enter (fs : FileSystem) (trail : Trail) (name : String) : Except FileError Trail :=
  match fs.nodeAt trail with
  | .directory entries =>
    if name = "" ∨ name = "." then .ok trail
    else if name = ".." then .ok trail.tail
    else if name.utf8ByteSize > nameLimit then .error .nameTooLong
    else
      match entries.find? name with
      | some node => .ok ((name, node) :: trail)
      | none => .error .notFound
  | _ => .error .notDirectory

/-- Follows names in turn. -/
def follow (fs : FileSystem) : Trail → List String → Except FileError Trail
  | trail, [] => .ok trail
  | trail, name :: rest => do fs.follow (← fs.enter trail name) rest

/-- Where relative paths start from. -/
def currentTrail (fs : FileSystem) : Trail :=
  match fs.follow [] fs.current with
  | .ok trail => trail
  | .error _ => []

/-- The names of a path in order, after the slash it may begin with. -/
def namesOf (p : Path) : List String :=
  p.segments.map String.ofList

/-- Rules that hold for the path as a whole. -/
def checkPath (p : Path) : Except FileError Unit :=
  if p.text.toList.contains '\x00' then .error .nulInName
  else if p.text.isEmpty then .error .notFound
  else if p.text.utf8ByteSize ≥ pathLimit then .error .nameTooLong
  else .ok ()

def startOf (fs : FileSystem) (p : Path) : Trail :=
  if p.isAbsolute then [] else fs.currentTrail

/-- The trail that a path leads along. -/
def locate (fs : FileSystem) (p : Path) : Except FileError Trail := do
  checkPath p
  fs.follow (fs.startOf p) (namesOf p)

def node? (fs : FileSystem) (p : Path) : Option FileNode :=
  match fs.locate p with
  | .ok trail => some (fs.nodeAt trail)
  | .error _ => none

/-- Whether the path leads to a regular file. -/
def isFile (fs : FileSystem) (p : Path) : Bool :=
  match fs.node? p with
  | some node => node.isRegular
  | none => false

def isDirectory (fs : FileSystem) (p : Path) : Bool :=
  match fs.node? p with
  | some node => node.isDirectory
  | none => false

def read (fs : FileSystem) (p : Path) : Except FileError Bytes := do
  match fs.nodeAt (← fs.locate p) with
  | .file contents _ => return contents
  | .device => return []
  | .directory _ => .error .isDirectory

/-- The contents of a file as text. -/
def readText (fs : FileSystem) (p : Path) : Except FileError String := do
  match Utf8.text? (← fs.read p) with
  | some text => return text
  | none => .error .notText

/-- The names that lead from the root along a trail. -/
def trailNames (trail : Trail) : List String :=
  (trail.map Prod.fst).reverse

/-- A path without the last of its names: where it leads, and that name. Trailing slashes belong to
the last name and are counted. -/
def splitLast (fs : FileSystem) (p : Path) : Except FileError (Trail × String × Bool) := do
  checkPath p
  let names := namesOf p
  let bare := dropTrailing (· == "") names
  match bare.getLast? with
  | none => return (fs.startOf p, ".", true)
  | some name =>
    return (← fs.follow (fs.startOf p) bare.dropLast, name, bare.length < names.length)

/-- Makes a directory whose parent exists. -/
def makeDirectory (fs : FileSystem) (p : Path) : Except FileError FileSystem := do
  let (trail, name, _) ← fs.splitLast p
  match fs.enter trail name with
  | .ok _ => .error .alreadyExists
  | .error .notFound => return fs.put (trailNames trail ++ [name]) .empty trivial
  | .error e => .error e

/-- Makes a directory and those above it that are missing. `depth` bounds how many there can be. -/
def makeDirectoriesUpTo (depth : Nat) (fs : FileSystem) (p : Path) : Except FileError FileSystem :=
  if p.text.isEmpty then .ok fs
  else
    match fs.makeDirectory p with
    | .ok fs => .ok fs
    | .error .notFound =>
      match depth, p.parent? with
      | depth + 1, some parent => do
        let fs ← makeDirectoriesUpTo depth fs parent
        match fs.makeDirectory p with
        | .ok fs => return fs
        | .error e => if fs.isDirectory p then return fs else .error e
      | _, _ => .error .notFound
    | .error e => if fs.isDirectory p then .ok fs else .error e

def makeDirectories (fs : FileSystem) (p : Path) : Except FileError FileSystem :=
  makeDirectoriesUpTo p.segments.length fs p

/-- Writes a file, new or in place of its former contents. -/
def write (fs : FileSystem) (p : Path) (contents : Bytes) : Except FileError FileSystem := do
  let (trail, name, slash) ← fs.splitLast p
  let written (executable : Bool) : FileSystem :=
    fs.put (trailNames trail ++ [name]) (.file contents executable) trivial
  match fs.enter trail name with
  | .ok target =>
    match fs.nodeAt target with
    | .directory _ => .error .isDirectory
    | .file _ executable => if slash then .error .notDirectory else return written executable
    | .device => if slash then .error .notDirectory else return fs
  | .error .notFound => if slash then .error .isDirectory else return written false
  | .error e => .error e

/-- Adds a directory or file together with the directories above it. A path that cannot be made is
left out. -/
def addDirectory (fs : FileSystem) (p : Path) : FileSystem :=
  match fs.makeDirectories p with
  | .ok fs => fs
  | .error _ => fs

def addFile (fs : FileSystem) (p : Path) (contents : Bytes) (executable : Bool) : FileSystem :=
  let fs := match p.parent? with
    | some parent => fs.addDirectory parent
    | none => fs
  match fs.splitLast p with
  | .ok (trail, name, _) =>
    fs.put (trailNames trail ++ [name]) (.file contents executable) trivial
  | .error _ => fs

/-- Removes what a path leads to. -/
def remove (fs : FileSystem) (p : Path) : Except FileError FileSystem := do
  let (trail, name, _) ← fs.splitLast p
  let _ ← fs.enter trail name
  return fs.takeOut (trailNames trail ++ [name])

end FileSystem

end EngineTrials
