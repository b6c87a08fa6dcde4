import EngineTrials.Shell.Arithmetic
import EngineTrials.Shell.Machine
import EngineTrials.Shell.Pattern

/-!
# Expanding words

A word becomes a list of marked characters; unquoted results of expansions are then split at the
separators of `IFS`, and fields with pattern characters are replaced by the paths they stand for.
Running the commands of a substitution is left to a function that is given.
-/
namespace EngineTrials.Shell
open Text Shell.Action

/-- A part of an expanded word. -/
inductive Bit
  | char (c : Char) (quoted : Bool) (splits : Bool)
  /-- Nothing, but it makes a field. -/
  | hold
  /-- The end of a field. -/
  | cut
deriving DecidableEq, Inhabited

namespace Bit

def quotedText (cs : ByteText) : List Bit := .hold :: cs.map fun c => .char c true false

def resultText (cs : ByteText) : List Bit := cs.map fun c => .char c false true

def ofResult (quoted : Bool) (cs : ByteText) : List Bit :=
  if quoted then quotedText cs else resultText cs

/-- The characters, with a space at the end of each field but the last. -/
def marked (bits : List Bit) : List Marked :=
  bits.filterMap fun
    | .char c quoted _ => some (c, quoted)
    | .hold => none
    | .cut => some (' ', true)

def text (bits : List Bit) : ByteText := (marked bits).map Prod.fst

/-- Unquoted characters are split like the result they stand in for. -/
def splittable (bits : List Bit) : List Bit :=
  bits.map fun
    | .char c false _ => .char c false true
    | b => b

end Bit

namespace Expansion

/-- The value of a variable, if it has one. -/
def valueOf (name : ByteText) : Action (Option ByteText) := do
  return ((← process).bindings.lookup name).map Variable.value

def setVariable (name value : ByteText) : Action Unit := do
  let p ← process
  let former := p.bindings.lookup name
  if (former.map Variable.readOnly).getD false then die (textOf name ++ ": is read only")
  let others := p.bindings.filter fun (n, _) => n != name
  let exported := (former.map Variable.exported).getD false
  modifyProcess fun p => { p with bindings := (name, { value, exported }) :: others }

def defaultSeparators : ByteText := [' ', '\t', '\n']

def separators : Action ByteText := return (← valueOf "IFS".toList).getD defaultSeparators

/-- The texts between which a parameter consists of fields; one text for most. -/
def parameter? (name : ByteText) : Action (Option ByteText) := do
  let p ← process
  match name with
  | ['#'] => return some (decimalText p.arguments.length)
  | ['?'] => return some (decimalText p.status)
  | ['$'] => return some (decimalText p.number)
  | ['!'] => return p.lastJob.map fun n => decimalText n
  | ['-'] => return some ((if p.stopsOnFailure then ['e'] else []) ++
      (if p.noGlob then ['f'] else []) ++ (if p.refusesUnset then ['u'] else []))
  | ['0'] => return some p.name
  | c :: _ =>
    if isNameStart c then valueOf name
    else
      match natural? 10 name with
      | some n => return p.arguments[n - 1]?
      | none => return none
  | [] => return none

def isList (name : ByteText) : Bool := name == ['@'] || name == ['*']

/-- Puts something between every two lists. -/
def between {α : Type} (separator : List α) : List (List α) → List α
  | [] => []
  | [xs] => xs
  | xs :: rest => xs ++ separator ++ between separator rest

/-- All arguments, as fields of their own except for `*` in quotes. -/
def listBits (name : ByteText) (quoted : Bool) : Action (List Bit) := do
  let arguments := (← process).arguments
  if quoted && name == ['*'] then
    let joint := (← separators).take 1
    return Bit.quotedText (between joint arguments)
  else return between [.cut] (arguments.map (Bit.ofResult quoted))

/-- An unset variable is an error where that was asked for. -/
def checkSet (name : ByteText) (value : Option ByteText) : Action Unit := do
  if value.isNone && (← process).refusesUnset then die (textOf name ++ ": parameter not set")

def numberOf (value : Option ByteText) : Option Int :=
  match value with
  | none | some [] => some 0
  | some ('-' :: digits) => (Arithmetic.number? digits).map fun n => -n
  | some ('+' :: digits) => Arithmetic.number? digits
  | some digits => Arithmetic.number? digits

/-- The value of an arithmetic expansion. Variables it sets keep their new values. -/
def calculate (text : ByteText) : Action ByteText := do
  let bindings := (← process).bindings
  let value (name : ByteText) : Option Int := numberOf ((bindings.lookup name).map Variable.value)
  let result := do
    let e ← Arithmetic.read text
    Arithmetic.evaluate e { value }
  let refuse (what : String) : Action ByteText :=
    die ("arithmetic expression: " ++ what ++ ": \"" ++ textOf text ++ "\"")
  match result with
  | .ok (n, scope) =>
    for (name, v) in scope.assigned.reverse do
      setVariable name (decimalText v)
    return decimalText n
  | .error .noOperand => refuse "expecting primary"
  | .error .overlong => refuse "expecting EOF"
  | .error .divisionByZero => refuse "division by zero"
  | .error (.notNumber name) =>
    let shown := (bindings.lookup name).map Variable.value
    die ("Illegal number: " ++ textOf (shown.getD []))

section

variable (substitute : List Command → Action ByteText)

mutual

def pieceBits : Nat → Piece → Action (List Bit)
  | 0, _ => die "word nested too deeply"
  | fuel + 1, piece => do
    match piece with
    | .literal text true => return Bit.quotedText text
    | .literal text false => return text.map fun c => .char c false false
    | .parameter name quoted =>
      if isList name then listBits name quoted
      else
        let value ← parameter? name
        checkSet name value
        return Bit.ofResult quoted (value.getD [])
    | .length name quoted =>
      if isList name then return Bit.ofResult quoted (decimalText (← process).arguments.length)
      let value ← parameter? name
      checkSet name value
      return Bit.ofResult quoted (decimalText (value.getD []).length)
    | .modified name modifier colon word quoted => modifiedBits fuel name modifier colon word quoted
    | .substitution script quoted => return Bit.ofResult quoted (← substitute script)
    | .arithmetic expression quoted =>
      return Bit.ofResult quoted (← calculate (Bit.text (← wordBits fuel expression)))

def modifiedBits : Nat → ByteText → Modifier → Bool → Word → Bool → Action (List Bit)
  | 0, _, _, _, _, _ => die "word nested too deeply"
  | fuel + 1, name, modifier, colon, word, quoted => do
    let listed ← if isList name then listBits name quoted else pure []
    let value ← if isList name then
        pure (if (← process).arguments.isEmpty then none else some (Bit.text listed))
      else parameter? name
    let present := if colon then value.any fun v => !v.isEmpty else value.isSome
    let own := if isList name then listed else Bit.ofResult quoted (value.getD [])
    match modifier with
    | .fallback => if present then return own else return Bit.splittable (← wordBits fuel word)
    | .replace => if present then return Bit.splittable (← wordBits fuel word) else return []
    | .assign =>
      if present then return own
      else
        let text := Bit.text (← wordBits fuel word)
        setVariable name text
        return Bit.ofResult quoted text
    | .demand =>
      if present then return own
      else
        let text := textOf (Bit.text (← wordBits fuel word))
        let standard := if colon then "parameter not set or null" else "parameter not set"
        die (textOf name ++ ": " ++ (if text.isEmpty then standard else text))
    | .dropFront longest =>
      checkSet name value
      let pattern := Pattern.ofMarked (Bit.marked (← wordBits fuel word))
      return Bit.ofResult quoted (Pattern.dropFront pattern longest (value.getD []))
    | .dropBack longest =>
      checkSet name value
      let pattern := Pattern.ofMarked (Bit.marked (← wordBits fuel word))
      return Bit.ofResult quoted (Pattern.dropBack pattern longest (value.getD []))

def wordBits : Nat → Word → Action (List Bit)
  | 0, _ => die "word nested too deeply"
  | fuel + 1, word => do
    match word with
    | [] => return []
    | piece :: rest => return (← pieceBits fuel piece) ++ (← wordBits fuel rest)

end

/-- A tilde alone or before a slash stands for the home directory. -/
def withHome (word : Word) : Action Word := do
  let home := (← valueOf "HOME".toList).map fun h => Piece.literal h true
  match word, home with
  | [.literal ['~'] false], some home => return [home]
  | .literal ['~'] false :: .literal ['/'] false :: rest, some home =>
    return home :: .literal ['/'] false :: rest
  | _, _ => return word

/-- More than the length of any word and its nesting. -/
def depthLimit : Nat := 1000000

def bits (word : Word) : Action (List Bit) := do
  wordBits substitute depthLimit (← withHome word)

/-- The text of a word that stands for one text. -/
def single (word : Word) : Action ByteText := return Bit.text (← bits substitute word)

def pattern (word : Word) : Action (List Pattern.Item) :=
  return Pattern.ofMarked (Bit.marked (← bits substitute word))

end

/-- The fields found so far, the last one first, and the one that is open. -/
structure Fields where
  complete : List (List Marked) := []
  open? : Option (List Marked) := none
  /-- Whether blanks just ended a field, so that one separator more ends none. -/
  afterBlank : Bool := false

namespace Fields

def close (f : Fields) : Fields :=
  match f.open? with
  | some field => ⟨field.reverse :: f.complete, none, false⟩
  | none => { f with afterBlank := false }

def isBlankSeparator (separators : ByteText) (c : Char) : Bool :=
  separators.contains c && defaultSeparators.contains c

def add (separators : ByteText) (f : Fields) (b : Bit) : Fields :=
  match b with
  | .hold => { f with open? := some (f.open?.getD []), afterBlank := false }
  | .cut => f.close
  | .char c quoted splits =>
    if splits && separators.contains c then
      if isBlankSeparator separators c then
        if f.open?.isSome then { f.close with afterBlank := true } else f
      else if f.open?.isSome || f.afterBlank then f.close
      else { f with complete := [] :: f.complete }
    else { f with open? := some ((c, quoted) :: f.open?.getD []), afterBlank := false }

def ofBits (separators : ByteText) (bits : List Bit) : List (List Marked) :=
  (bits.foldl (add separators) {}).close.complete.reverse

end Fields

/-- The paths below a directory that the components of a pattern stand for. -/
def paths (fs : FileSystem) : List (List Marked) → ByteText → List ByteText
  | [], base => [base]
  | component :: rest, base =>
    let put (name : ByteText) : ByteText :=
      if rest.isEmpty then base ++ name else base ++ name ++ ['/']
    if Pattern.isActive component then
      let directory : Path := ⟨if base.isEmpty then "." else textOf base⟩
      let names := (fs.node? directory).map FileNode.children |>.getD []
      let items := Pattern.ofMarked component
      let hidden := (component.head?.map Prod.fst) == some '.'
      let fitting := names.filter fun (name, node) =>
        Pattern.fits items (bytesOf name) && (hidden || !name.startsWith ".") &&
          (rest.isEmpty || node.isDirectory)
      fitting.flatMap fun (name, _) => paths fs rest (put (bytesOf name))
    else paths fs rest (put (component.map Prod.fst))

/-- The existing paths that a field stands for, or the field itself. -/
def pathsOf (fs : FileSystem) (field : List Marked) : List ByteText :=
  let text := field.map Prod.fst
  if Pattern.isActive field then
    let found := (paths fs (Text.pieces (fun m => m.1 == '/') field) []).filter fun p =>
      (fs.node? ⟨textOf p⟩).isSome
    if found.isEmpty then [text] else found
  else [text]

/-- The texts that the words of a command become. -/
def fields (substitute : List Command → Action ByteText) : List Word → Action (List ByteText)
  | [] => return []
  | word :: rest => do
    let found := Fields.ofBits (← separators) (← bits substitute word)
    let fs ← files
    let noGlob := (← process).noGlob
    let texts := found.flatMap fun f => if noGlob then [f.map Prod.fst] else pathsOf fs f
    return texts ++ (← fields substitute rest)

end Expansion

end EngineTrials.Shell
