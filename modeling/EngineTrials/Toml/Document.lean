import EngineTrials.Toml.Scalar

/-!
# TOML documents

A document is read line by line: headers open tables, and the other lines give keys of the open
table their values. A document is well formed as a whole or not at all.
-/
namespace EngineTrials.Toml
open Text

def isKeyChar (c : Char) : Bool :=
  isDigit c || ('a' ≤ c && c ≤ 'z') || ('A' ≤ c && c ≤ 'Z') || c == '_' || c == '-'

def simpleKey : Parser String := fun cs =>
  match cs with
  | c :: _ =>
    if c = '"' ∨ c = '\'' then quoted false cs
    else
      let name := cs.takeWhile isKeyChar
      if name.isEmpty then none else some (String.ofList name, cs.dropWhile isKeyChar)
  | [] => none

/-- Keys with dots between them, with spaces around each. -/
def dottedKey : Nat → Parser (List String)
  | 0, _ => none
  | fuel + 1, cs => do
    let (key, cs) ← simpleKey (skipSpaces cs)
    match skipSpaces cs with
    | '.' :: rest => do
      let (path, rest) ← dottedKey fuel rest
      return (key :: path, rest)
    | cs => return ([key], cs)

def path : Parser (List String) := fun cs => dottedKey (cs.length + 1) cs

/-- What follows a comment, if one begins here and has no forbidden characters. -/
def skipComment? (cs : Input) : Option Input :=
  match cs with
  | '#' :: rest =>
    let rest := rest.dropWhile isAllowed
    if rest.isEmpty ∨ (afterBreak? rest).isSome then some rest else none
  | cs => some cs

/-- Passes spaces, line breaks and comments. -/
def skipLines? : Nat → Input → Option Input
  | 0, _ => none
  | fuel + 1, cs => do
    let cs ← skipComment? (skipSpaces cs)
    match afterBreak? cs with
    | some rest => skipLines? fuel rest
    | none => return cs

def skipAll? (cs : Input) : Option Input := skipLines? (cs.length + 1) cs

/-- Arrays and tables within one another may not be deeper. -/
def depthLimit : Nat := 80

mutual

def value : Nat → (depth : Nat) → Parser Value
  | 0, _, _ => none
  | fuel + 1, depth, cs =>
    match cs with
    | '[' :: rest =>
      if depth = 0 then none
      else do
        let (items, rest) ← items fuel (depth - 1) rest
        return (.array items, rest)
    | '\x7b' :: rest =>
      if depth = 0 then none
      else do
        let (t, rest) ← pairs fuel (depth - 1) { origin := .inline } rest
        return (t.toValue, rest)
    | c :: _ =>
      if c = '"' ∨ c = '\'' then do
        let (text, rest) ← quoted true cs
        return (.string text, rest)
      else bare cs
    | [] => none

/-- The items of an array up to its bracket; the last may have a comma too. -/
def items : Nat → (depth : Nat) → Parser (List Value)
  | 0, _, _ => none
  | fuel + 1, depth, cs => do
    match ← skipAll? cs with
    | ']' :: rest => return ([], rest)
    | cs => do
      let (item, cs) ← value fuel depth cs
      match ← skipAll? cs with
      | ',' :: rest => do
        let (more, rest) ← items fuel depth rest
        return (item :: more, rest)
      | ']' :: rest => return ([item], rest)
      | _ => none

/-- The entries of a table up to its brace; the last may have a comma too. -/
def pairs : Nat → (depth : Nat) → Table → Parser Table
  | 0, _, _, _ => none
  | fuel + 1, depth, t, cs => do
    match ← skipAll? cs with
    | '\x7d' :: rest => return (t, rest)
    | cs => do
      let (way, cs) ← path cs
      let ((), cs) ← expect '=' cs
      let (v, cs) ← value fuel depth (skipSpaces cs)
      let t ← t.assign way v
      match ← skipAll? cs with
      | ',' :: rest => pairs fuel depth t rest
      | '\x7d' :: rest => return (t, rest)
      | _ => none

end

inductive Line
  | blank
  | header (path : List String)
  | repeatedHeader (path : List String)
  | assignment (path : List String) (value : Value)

/-- A line without what follows its content. -/
def line : Parser Line := fun cs =>
  match skipSpaces cs with
  | '[' :: '[' :: rest => do
    let (way, rest) ← path rest
    let ((), rest) ← expect ']' rest
    let ((), rest) ← expect ']' rest
    return (.repeatedHeader way, rest)
  | '[' :: rest => do
    let (way, rest) ← path rest
    let ((), rest) ← expect ']' rest
    return (.header way, rest)
  | [] => some (.blank, [])
  | c :: rest =>
    if c = '#' ∨ (afterBreak? (c :: rest)).isSome then some (.blank, c :: rest)
    else do
      let (way, rest) ← path (c :: rest)
      let ((), rest) ← expect '=' rest
      let rest := skipSpaces rest
      let (v, rest) ← value (2 * rest.length + 2) depthLimit rest
      return (.assignment way v, rest)

/-- The lines of a text. -/
def lines? : Nat → Input → Option (List Line)
  | 0, _ => none
  | fuel + 1, cs => do
    let (l, cs) ← line cs
    let cs ← skipComment? (skipSpaces cs)
    match cs with
    | [] => return [l]
    | cs => return l :: (← lines? fuel (← afterBreak? cs))

/-- A document so far, and the path of the table its lines belong to. -/
structure State where
  root : Table := { origin := .declared }
  current : List String := []

namespace State

def add (s : State) : Line → Option State
  | .blank => some s
  | .header way => do
    let key ← way.getLast?
    return ⟨← s.root.update false (Table.declare key) way.dropLast, way⟩
  | .repeatedHeader way => do
    let key ← way.getLast?
    return ⟨← s.root.update false (Table.declareNext key) way.dropLast, way⟩
  | .assignment way v => do
    return { s with root := ← s.root.update false (Table.assign way v) s.current }

end State

/-- The table that a text describes. A byte order mark may come first. -/
def read? (text : String) : Option Table := do
  let cs := text.toList
  let cs := if cs.head? = some '\ufeff' then cs.drop 1 else cs
  let s ← (← lines? (cs.length + 1) cs).foldlM State.add {}
  return s.root

end EngineTrials.Toml
