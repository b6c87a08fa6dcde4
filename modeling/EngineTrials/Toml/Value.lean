import EngineTrials.Number.Binary64

/-!
# TOML values

Values and tables, which keep their keys in the order they were written. A table knows how it came
about, since that decides whether it can still grow.
-/
namespace EngineTrials.Toml

/-- How a table came about. -/
inductive Origin
  /-- By the header of a table inside it. -/
  | implied
  /-- By a dotted key. -/
  | dotted
  /-- By its own header. -/
  | declared
  /-- Between braces; such a table is complete. -/
  | inline
deriving DecidableEq, Inhabited

inductive Value
  | string (text : String)
  | integer (value : Int)
  | float (value : Binary64)
  /-- A decimal beyond the range of floats. -/
  | overflow
  | boolean (value : Bool)
  /-- A date, a time or both. -/
  | moment (text : String)
  | array (items : List Value)
  /-- The tables of one repeated header. -/
  | tables (items : List Value)
  | table (origin : Origin) (entries : List (String × Value))
deriving Inhabited

/-- The keys and values of a table. -/
structure Table where
  origin : Origin
  entries : List (String × Value) := []
deriving Inhabited

namespace Table

def find? (t : Table) (key : String) : Option Value := t.entries.lookup key

def toValue (t : Table) : Value := .table t.origin t.entries

/-- Adds an entry at the end, or replaces the value of an entry where it stands. -/
def put (t : Table) (key : String) (value : Value) : Table :=
  if t.entries.any (·.1 == key) then
    { t with entries := t.entries.map fun (k, v) => if k == key then (k, value) else (k, v) }
  else { t with entries := t.entries ++ [(key, value)] }

/-- Whether the table was never written down as one. -/
def isImplicit (t : Table) : Bool := t.origin == .implied || t.origin == .dotted

/-- Changes the table that a path leads to. Missing tables are made; a table between braces is left
alone, and a dotted key does not lead into a table that has a header. Of tables with one header the
last is meant. -/
def update (byDots : Bool) (change : Table → Option Table) : List String → Table → Option Table
  | [], t => change t
  | key :: path, t =>
    match t.find? key with
    | none => do
      let inner ← update byDots change path { origin := if byDots then .dotted else .implied }
      return t.put key inner.toValue
    | some (.table origin entries) =>
      let inner : Table := ⟨origin, entries⟩
      if origin = .inline ∨ (byDots ∧ !inner.isImplicit) then none
      else do return t.put key (← update byDots change path inner).toValue
    | some (.tables items) =>
      match items.getLast? with
      | some (.table origin entries) => do
        let last ← update byDots change path ⟨origin, entries⟩
        return t.put key (.tables (items.dropLast ++ [last.toValue]))
      | _ => none
    | some _ => none

/-- Declares a table, which may have been implied before. -/
def declare (key : String) (t : Table) : Option Table :=
  match t.find? key with
  | none => some (t.put key (.table .declared []))
  | some (.table .implied entries) => some (t.put key (.table .declared entries))
  | some _ => none

/-- Declares one more of several tables. -/
def declareNext (key : String) (t : Table) : Option Table :=
  match t.find? key with
  | none => some (t.put key (.tables [.table .declared []]))
  | some (.tables items) => some (t.put key (.tables (items ++ [.table .declared []])))
  | some _ => none

/-- Gives a new key its value. A dotted key adds to tables made by dotted keys only. -/
def assign (path : List String) (value : Value) (t : Table) : Option Table :=
  match path.getLast? with
  | none => none
  | some key =>
    let way := path.dropLast
    update true (fun inner =>
      if (inner.origin == .dotted) == way.isEmpty || (inner.find? key).isSome then none
      else some (inner.put key value)) way t

end Table

end EngineTrials.Toml
