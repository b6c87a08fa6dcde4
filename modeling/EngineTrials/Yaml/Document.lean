import EngineTrials.Yaml.Lexer
import EngineTrials.Yaml.Node

/-!
# Documents from tokens

The grammar of documents over tokens, read by descent. From the first fault on every node is
missing, so each reader is total and the tree holds what was read before.
-/
namespace EngineTrials.Yaml
open Text

namespace Document

structure State where
  tokens : List Token
  /-- The names given so far and their numbers. -/
  names : List (List Char × Nat) := []
  /-- Tag handles and what they stand for. -/
  handles : List (TagText × TagText) := []
  fault : Option Fault := none

abbrev Reader := StateM State

/-- Notes a fault; only the first one counts. -/
def fail (f : Fault) : Reader Fault :=
  modifyGet fun s => (s.fault.getD f, { s with fault := some (s.fault.getD f) })

/-- The next token. Where there is none, or after a fault, there is a fault. -/
def peek : Reader (Option Token) := fun s =>
  match s.fault, s.tokens with
  | none, t :: _ => (some t, s)
  | none, [] => (none, { s with fault := some .malformed })
  | some _, _ => (none, s)

def advance : Reader Unit :=
  modify fun s => { s with tokens := s.tokens.drop 1 }

def missing : Reader Node := Node.missing <$> fail .malformed

/-- A name's number is how many different names were given before. A name given again leads to the
new node from then on. -/
def declare (name : Option (List Char)) : Reader (Option Nat) :=
  modifyGet fun s =>
    match name with
    | none => (none, s)
    | some name =>
      let n := s.names.length
      (some n, { s with names := (name, n) :: s.names.filter (·.1 ≠ name) })

def anchorHere : Reader (Option (List Char)) := do
  match ← peek with
  | some (.anchor name) => advance; return some name
  | _ => return none

def tagHere : Reader (Option (TagText × TagText)) := do
  match ← peek with
  | some (.tag handle suffix) => advance; return some (handle, suffix)
  | _ => return none

/-- The tag that a handle and a suffix stand for. A handle has to be known. -/
def expandTag : TagText × TagText → Reader (Option TagText)
  | ([], suffix) => return some suffix
  | (handle, suffix) => do
    match (← get).handles.lookup handle with
    | some replacement => return some (replacement ++ suffix)
    | none => let _ ← fail .malformed; return none

/-- A name and a tag, in either order. -/
def properties : Reader (Option (List Char) × Option TagText) := do
  let name ← anchorHere
  let tag ← tagHere
  let name ← if name.isNone ∧ tag.isSome then anchorHere else pure name
  match tag with
  | none => return (name, none)
  | some tag => return (name, ← expandTag tag)

/-- The tag that says no more than its absence. -/
def bareTag : TagText := Utf8.encode ['!']

mutual

/-- A node. Inside a mapping the entries of a sequence may stand at the column of the mapping. -/
def node : Nat → (inBlock unindented : Bool) → Reader Node
  | 0, _, _ => missing
  | fuel + 1, inBlock, unindented => do
    match ← peek with
    | none => missing
    | some (.reference name) =>
      advance
      match (← get).names.lookup name with
      | some n => return .reference n
      | none => Node.missing <$> fail .unknownAnchor
    | some _ => do
      let (name, tag) ← properties
      match ← peek with
      | none => missing
      | some (.scalar text style) =>
        advance
        let anchor ← declare name
        return .scalar ⟨anchor, tag.filter (· ≠ bareTag)⟩ style (String.ofList text)
      | some .flowSequenceStart =>
        advance
        let anchor ← declare name
        return .sequence ⟨anchor, tag⟩ (← flowItems fuel true)
      | some .flowMappingStart =>
        advance
        let anchor ← declare name
        return .mapping ⟨anchor, tag⟩ (← flowEntries fuel true)
      | some t =>
        if unindented ∧ t = .blockEntry then do
          let anchor ← declare name
          return .sequence ⟨anchor, tag⟩ (← unindentedItems fuel)
        else if inBlock ∧ t = .blockSequenceStart then do
          advance
          let anchor ← declare name
          return .sequence ⟨anchor, tag⟩ (← blockItems fuel)
        else if inBlock ∧ t = .blockMappingStart then do
          advance
          let anchor ← declare name
          return .mapping ⟨anchor, tag⟩ (← blockEntries fuel)
        else if name.isSome ∨ tag.isSome then
          return .scalar ⟨← declare name, tag⟩ .plain ""
        else missing

/-- A node, or an empty one before any of these tokens. -/
def nodeUnless : Nat → (inBlock unindented : Bool) → List Token → Reader Node
  | 0, _, _, _ => missing
  | fuel + 1, inBlock, unindented, stops => do
    match ← peek with
    | none => missing
    | some t => if t ∈ stops then return .empty else node fuel inBlock unindented

def blockItems : Nat → Reader Items
  | 0 => Items.broken <$> fail .malformed
  | fuel + 1 => do
    match ← peek with
    | some .blockEntry =>
      advance
      let item ← nodeUnless fuel true false [.blockEntry, .blockEnd]
      return .cons item (← blockItems fuel)
    | some .blockEnd => advance; return .done
    | _ => Items.broken <$> fail .malformed

/-- The entries of a sequence without indentation of its own, which nothing marks the end of. -/
def unindentedItems : Nat → Reader Items
  | 0 => Items.broken <$> fail .malformed
  | fuel + 1 => do
    match ← peek with
    | some .blockEntry =>
      advance
      let item ← nodeUnless fuel true false [.blockEntry, .key, .value, .blockEnd]
      return .cons item (← unindentedItems fuel)
    | some _ => return .done
    | none => Items.broken <$> fail .malformed

def blockEntries : Nat → Reader Entries
  | 0 => Entries.broken <$> fail .malformed
  | fuel + 1 => do
    match ← peek with
    | some .key =>
      advance
      let key ← nodeUnless fuel true true [.key, .value, .blockEnd]
      let value ← blockValue fuel
      return .cons key value (← blockEntries fuel)
    | some .blockEnd => advance; return .done
    | _ => Entries.broken <$> fail .malformed

/-- The value of a key in a block mapping, which may be left out. -/
def blockValue : Nat → Reader Node
  | 0 => missing
  | fuel + 1 => do
    match ← peek with
    | some .value =>
      advance
      nodeUnless fuel true true [.key, .value, .blockEnd]
    | some _ => return .empty
    | none => missing

/-- The items of a flow sequence, which commas separate. An item with a key is a mapping of one
entry. -/
def flowItems : Nat → (first : Bool) → Reader Items
  | 0, _ => Items.broken <$> fail .malformed
  | fuel + 1, first => do
    match ← peek with
    | none => Items.broken <$> fail .malformed
    | some .flowSequenceEnd => advance; return .done
    | some t =>
      if !first ∧ t ≠ .flowEntry then Items.broken <$> fail .malformed
      else do
        if !first then advance
        match ← peek with
        | none => Items.broken <$> fail .malformed
        | some .flowSequenceEnd => advance; return .done
        | some .key =>
          advance
          let entries ← singleEntry fuel
          return .cons (.mapping {} entries) (← flowItems fuel false)
        | some _ =>
          let item ← node fuel false false
          return .cons item (← flowItems fuel false)

/-- A key and its value in a flow sequence. Where the key is empty, the token after it is passed
over. -/
def singleEntry : Nat → Reader Entries
  | 0 => Entries.broken <$> fail .malformed
  | fuel + 1 => do
    match ← peek with
    | none => Entries.broken <$> fail .malformed
    | some t =>
      let key ←
        if t = .value ∨ t = .flowEntry ∨ t = .flowSequenceEnd then do advance; pure Node.empty
        else node fuel false false
      let value ← flowValue fuel [.flowEntry, .flowSequenceEnd]
      match ← peek with
      | some _ => return .cons key value .done
      | none => return .cons key value (.broken (← fail .malformed))

/-- The value of a key in a flow collection, which may be left out. -/
def flowValue : Nat → List Token → Reader Node
  | 0, _ => missing
  | fuel + 1, stops => do
    match ← peek with
    | some .value =>
      advance
      nodeUnless fuel false false stops
    | some _ => return .empty
    | none => missing

/-- The entries of a flow mapping, which commas separate; one without a key's mark has no value. -/
def flowEntries : Nat → (first : Bool) → Reader Entries
  | 0, _ => Entries.broken <$> fail .malformed
  | fuel + 1, first => do
    match ← peek with
    | none => Entries.broken <$> fail .malformed
    | some .flowMappingEnd => advance; return .done
    | some t =>
      if !first ∧ t ≠ .flowEntry then Entries.broken <$> fail .malformed
      else do
        if !first then advance
        match ← peek with
        | none => Entries.broken <$> fail .malformed
        | some .flowMappingEnd => advance; return .done
        | some .key =>
          advance
          let key ← nodeUnless fuel false false [.value, .flowEntry, .flowMappingEnd]
          let value ← flowValue fuel [.flowEntry, .flowMappingEnd]
          return .cons key value (← flowEntries fuel false)
        | some _ =>
          let key ← node fuel false false
          let value ← match ← peek with
            | some _ => pure Node.empty
            | none => missing
          return .cons key value (← flowEntries fuel false)

end

/-- The handles that are known without a directive. -/
def standardHandles : List (TagText × TagText) :=
  [(Utf8.encode ['!'], Utf8.encode ['!']),
    (Utf8.encode ['!', '!'], Utf8.encode "tag:yaml.org,2002:".toList)]

/-- The directives before a document: at most one version, which has to be 1.1 or 1.2, and handles,
each at most once. -/
def directives : Nat → (versionSeen : Bool) → Reader Unit
  | 0, _ => return
  | fuel + 1, versionSeen => do
    match ← peek with
    | some (.version major minor) =>
      if versionSeen ∨ major ≠ 1 ∨ (minor ≠ 1 ∧ minor ≠ 2) then let _ ← fail .malformed
      else do
        advance
        directives fuel true
    | some (.tagHandle handle replacement) =>
      if ((← get).handles.lookup handle).isSome then let _ ← fail .malformed
      else do
        modify fun s => { s with handles := s.handles ++ [(handle, replacement)] }
        advance
        directives fuel versionSeen
    | _ => modify fun s => { s with handles := s.handles ++ standardHandles }

/-- The content of a document. -/
def content (fuel : Nat) : Reader Node := do
  match ← peek with
  | none => missing
  | some .streamEnd => return .empty
  | some t =>
    let marked := t matches .documentStart | .version _ _ | .tagHandle _ _
    directives fuel false
    if marked then
      match ← peek with
      | some .documentStart => do
        advance
        match ← peek with
        | none => missing
        | some t =>
          if t matches .version _ _ | .tagHandle _ _ | .documentStart | .documentEnd |
              .streamEnd then
            return .empty
          else node fuel true false
      | _ => missing
    else node fuel true false

/-- A document ends with its mark, or where the next one begins. -/
def ending : Reader Unit := do
  match ← peek with
  | some .documentEnd => advance
  | _ => return

/-- The first document of a text. -/
def first : Reader Document := do
  let fuel := 3 * (← get).tokens.length + 8
  let root ← content fuel
  ending
  let s ← get
  let rest := s.tokens.dropWhile (· == .documentEnd)
  return { root, fault := s.fault, followed := rest.head? != some .streamEnd }

def ofTokens (ts : List Token) : Document :=
  (first.run { tokens := ts }).1

/-- The first document of a text; a text without any counts as an empty one. -/
def ofText (s : String) : Document :=
  ofTokens (tokens (.ofText s))

end Document

end EngineTrials.Yaml
