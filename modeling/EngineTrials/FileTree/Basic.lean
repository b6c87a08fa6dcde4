import EngineTrials.Text.Utf8

/-!
# File trees

A regular file with its contents, a device, or a directory with entries, the names of which are in
ascending order. There are no links.
-/
namespace EngineTrials
open Text

mutual

inductive FileNode
  | file (contents : Bytes) (executable : Bool)
  | device
  | directory (entries : Entries)

/-- The entries of a directory. -/
inductive Entries
  | nil
  | cons (name : String) (node : FileNode) (rest : Entries)

end

instance : Inhabited FileNode := ⟨.device⟩

namespace Entries

def toList : Entries → List (String × FileNode)
  | nil => []
  | cons name node rest => (name, node) :: rest.toList

def find? (name : String) : Entries → Option FileNode
  | nil => none
  | cons n node rest => if n = name then some node else find? name rest

/-- Takes a name out. -/
def erase (name : String) : Entries → Entries
  | nil => nil
  | cons n node rest => if n = name then rest else cons n node (erase name rest)

/-- Puts a node under a new name, in front of the first name that is greater. -/
def insertNew (name : String) (node : FileNode) : Entries → Entries
  | nil => cons name node nil
  | cons n other rest =>
    if name < n then cons name node (cons n other rest)
    else cons n other (insertNew name node rest)

/-- Puts a node under a name, in place of the one that was there. -/
def insert (name : String) (node : FileNode) (entries : Entries) : Entries :=
  (entries.erase name).insertNew name node

end Entries

namespace FileNode

def empty : FileNode := directory .nil

def isRegular : FileNode → Bool
  | file _ _ => true
  | _ => false

def isDirectory : FileNode → Bool
  | directory _ => true
  | _ => false

/-- What is listed in a directory; nothing for any other node. -/
def children : FileNode → List (String × FileNode)
  | directory entries => entries.toList
  | _ => []

def child? (name : String) : FileNode → Option FileNode
  | directory entries => entries.find? name
  | _ => none

/-- Puts a node below this one at the end of the names. Directories on the way must exist. -/
def place (tree : FileNode) (names : List String) (node : FileNode) : FileNode :=
  match names with
  | [] => node
  | name :: rest =>
    match tree with
    | directory entries =>
      directory (entries.insert name (place ((entries.find? name).getD empty) rest node))
    | other => other

/-- Takes out what is below this node at the end of the names. -/
def takeOut (tree : FileNode) : List String → FileNode
  | [] => tree
  | name :: rest =>
    match tree with
    | directory entries =>
      if rest.isEmpty then directory (entries.erase name)
      else
        match entries.find? name with
        | some node => directory (entries.insert name (node.takeOut rest))
        | none => directory entries
    | other => other

/-- What names lead down to. -/
def descend? (node : FileNode) : List String → Option FileNode
  | [] => some node
  | name :: rest => (node.child? name).bind fun child => child.descend? rest

end FileNode

end EngineTrials
