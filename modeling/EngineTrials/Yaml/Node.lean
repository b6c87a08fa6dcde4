import EngineTrials.Yaml.Token

/-!
# YAML documents

A document as a tree of nodes. A node that was given a name can stand in several places: all but the
first are references to it, and `Document.view` looks through them. Where the text of a document is
at fault the tree breaks off, so that a reader who goes through it in order meets everything that
comes before the fault.
-/
namespace EngineTrials.Yaml

/-- Why a document breaks off. -/
inductive Fault
  | malformed
  | unknownAnchor
deriving DecidableEq, Inhabited

/-- What is written before the content of a node. -/
structure Properties where
  /-- Under this number references find the node. -/
  anchor : Option Nat := none
  tag : Option TagText := none
deriving DecidableEq, Inhabited

mutual

inductive Node
  | scalar (properties : Properties) (style : Style) (text : String)
  | sequence (properties : Properties) (items : Items)
  | mapping (properties : Properties) (entries : Entries)
  | reference (anchor : Nat)
  | missing (fault : Fault)

inductive Items
  | done
  | broken (fault : Fault)
  | cons (item : Node) (rest : Items)

inductive Entries
  | done
  | broken (fault : Fault)
  | cons (key value : Node) (rest : Entries)

end

instance : Inhabited Node := ⟨.missing .malformed⟩

instance : Inhabited Items := ⟨.done⟩

instance : Inhabited Entries := ⟨.done⟩

namespace Node

/-- Nothing written where a node belongs. -/
def empty : Node := .scalar {} .plain ""

def own (n : Node) (p : Properties) : List (Nat × Node) :=
  p.anchor.toList.map fun anchor => (anchor, n)

mutual

/-- The named nodes of a tree in the order they begin. -/
def anchored : Node → List (Nat × Node)
  | n@(.scalar p _ _) => n.own p
  | n@(.sequence p items) => n.own p ++ anchoredItems items
  | n@(.mapping p entries) => n.own p ++ anchoredEntries entries
  | .reference _ | .missing _ => []

def anchoredItems : Items → List (Nat × Node)
  | .done | .broken _ => []
  | .cons item rest => anchored item ++ anchoredItems rest

def anchoredEntries : Entries → List (Nat × Node)
  | .done | .broken _ => []
  | .cons key value rest => anchored key ++ anchored value ++ anchoredEntries rest

end

end Node

namespace Entries

def toList : Entries → List (Node × Node)
  | .done | .broken _ => []
  | .cons key value rest => (key, value) :: rest.toList

/-- The fault the entries break off with, if they do. -/
def fault? : Entries → Option Fault
  | .done => none
  | .broken fault => some fault
  | .cons _ _ rest => rest.fault?

def ofList (entries : List (Node × Node)) : Entries :=
  entries.foldr (fun (k, v) rest => .cons k v rest) .done

end Entries

structure Document where
  root : Node
  /-- The fault in the document, or after it where its end should be. -/
  fault : Option Fault := none
  /-- Whether anything follows. -/
  followed : Bool := false
deriving Inhabited

namespace Document

/-- The node under a number; of several with one number, the last to begin. -/
def target? (d : Document) (anchor : Nat) : Option Node :=
  d.root.anchored.reverse.lookup anchor

/-- The node that stands at a place, also by reference. -/
def view (d : Document) : Node → Node
  | .reference anchor => (d.target? anchor).getD default
  | n => n

end Document

end EngineTrials.Yaml
