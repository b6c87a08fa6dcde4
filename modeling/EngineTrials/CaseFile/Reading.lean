import EngineTrials.Number.Word
import EngineTrials.Yaml.Document
import EngineTrials.Yaml.Meaning

/-!
# Reading case files

Readers for the values a case file may hold. They go through a document in order, so the first thing
that is wrong is the one reported: a key is looked at when it is met, before its value, and what is
missing is known at the end of its mapping.
-/
namespace EngineTrials.CaseFile
open Text Shape Yaml

inductive Problem
  | mismatch (place : List String) (mismatch : Mismatch)
  | fault (fault : Fault)
  | severalDocuments

namespace Problem

def here (m : Mismatch) : Problem := .mismatch [] m

/-- The problem as seen from outside the value of a key. -/
def within (key : String) : Problem → Problem
  | mismatch place m => mismatch (key :: place) m
  | p => p

def message : Problem → String
  | mismatch place m => placeText place ++ m.message
  | fault .malformed => "syntax"
  | fault .unknownAnchor => "unknown anchor"
  | severalDocuments => "deserializing from YAML containing more than one document is not supported"

end Problem

abbrev Result (α : Type) := Except Problem α

/-- Reads the value of a key. -/
def Result.within {α : Type} (key : String) (r : Result α) : Result α :=
  r.mapError (Problem.within key)

/-- How a place names the key of an entry. -/
def keyName : Node → String
  | .scalar _ _ s => s
  | _ => "?"

/-- The complaint about a node that is not `wanted`. -/
def reject {α : Type} (wanted : String) : Node → Result α
  | .scalar p style s => .error (.here (scalarMismatch p style s wanted))
  | .sequence _ _ => .error (.here (.wrongType .sequence wanted))
  | .mapping _ _ => .error (.here (.wrongType .map wanted))
  | .missing f => .error (.fault f)
  | .reference _ => .error (.fault .malformed)

/-- The text of any scalar. -/
def textAs (wanted : String) (d : Document) (n : Node) : Result String :=
  match d.view n with
  | .scalar _ _ s => .ok s
  | n => reject wanted n

def text (d : Document) (n : Node) : Result String := textAs "a string" d n

def boolean (d : Document) (n : Node) : Result Bool :=
  match d.view n with
  | .scalar p style s =>
    match if isTyped p style booleanTag then boolean? s else none with
    | some b => .ok b
    | none => reject "a boolean" (.scalar p style s)
  | n => reject "a boolean" n

/-- A signed integer of 32 bits. -/
def integer32 (d : Document) (n : Node) : Result Int :=
  match d.view n with
  | .scalar p style s =>
    match if isTyped p style integerTag then integer? s.toList else none with
    | some i =>
      if fitsSigned 32 i then .ok i
      else if fitsSigned 64 i then .error (.here (.wrongValue (.integer i) "i32"))
      else reject "i32" (.scalar p style s)
    | none => reject "i32" (.scalar p style s)
  | n => reject "i32" n

/-- An unsigned integer of 64 bits. -/
def natural64 (d : Document) (n : Node) : Result Nat :=
  match d.view n with
  | .scalar p style s =>
    match if isTyped p style integerTag then unsigned? s.toList else none with
    | some i => if i ≤ maxWord then .ok i else reject "usize" (.scalar p style s)
    | none => reject "usize" (.scalar p style s)
  | n => reject "usize" n

/-- Whether a node is null: a plain scalar without a tag that is empty or names null, or a plain one
tagged as null, which then has to name it. -/
def isNull (d : Document) (n : Node) : Result Bool :=
  match d.view n with
  | .scalar p .plain s =>
    match p.tag with
    | none => .ok (s == "" || nullNames.contains s)
    | some tag =>
      if tag = nullTag then
        if nullNames.contains s then .ok true
        else .error (.here (.wrongValue (.string s) "null"))
      else .ok false
  | .missing f => .error (.fault f)
  | _ => .ok false

/-- The value of a key, or nothing if it is null. -/
def optional {α : Type} (read : Document → Node → Result α) (d : Document) (key value : Node) :
    Result (Option α) := do
  if ← isNull d value then return none
  else return some (← Result.within (keyName key) (read d value))

/-- The entries of a mapping; nothing at all is an empty one. -/
def entries (wanted : String) (d : Document) (n : Node) : Result Yaml.Entries :=
  match d.view n with
  | .mapping _ es => .ok es
  | .scalar p style s =>
    if style = .plain ∧ s = "" then .ok .done else reject wanted (.scalar p style s)
  | n => reject wanted n

/-- Takes the entries in one after another. -/
def foldEntries {σ : Type} (step : σ → Node → Node → Result σ) : σ → Yaml.Entries → Result σ
  | state, .done => .ok state
  | _, .broken f => .error (.fault f)
  | state, .cons key value rest => do foldEntries step (← step state key value) rest

/-- The name of a field, which has to be one of `known`. -/
def field (known : List String) (d : Document) (key : Node) : Result String := do
  let name ← textAs "field identifier" d key
  if known.contains name then return name else .error (.here (.unknownField name known))

/-- Fills a field that holds nothing yet. -/
def fill {α : Type} (name : String) (before : Option α) (read : Result α) : Result (Option α) :=
  match before with
  | some _ => .error (.here (.duplicateField name))
  | none => some <$> read

def required {α : Type} (name : String) : Option α → Result α
  | some a => .ok a
  | none => .error (.here (.missingField name))

/-- Reads the first document of a text, which has to be the only one. -/
def fromText {α : Type} (read : Document → Node → Result α) (contents : String) : Result α := do
  let d := Document.ofText contents
  let a ← read d d.root
  match d.fault with
  | some f => .error (.fault f)
  | none => if d.followed then .error .severalDocuments else return a

end EngineTrials.CaseFile
