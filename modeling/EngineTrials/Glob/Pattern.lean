import EngineTrials.Path
import EngineTrials.Text.Digits

/-!
# Glob patterns

`?` stands for one character, `*` for any number, `[…]` for one of a class and `[!…]` for one that
is not in it. `**` must be a whole component and stands for any number of directories. A pattern is
checked as a whole, and then each of its components is read by itself.
-/
namespace EngineTrials.Glob
open Text

/-- A member of a class, or a range of members. -/
inductive ClassItem
  | single (c : Char)
  | range (first last : Char)
deriving DecidableEq

def ClassItem.contains (c : Char) : ClassItem → Bool
  | single d => c == d
  | range first last => first ≤ c && c ≤ last

inductive Token
  | char (c : Char)
  | anyChar
  | anySequence
  | anyDirectories
  | oneOf (items : List ClassItem)
  | noneOf (items : List ClassItem)
deriving DecidableEq

/-- A component of a pattern. -/
abbrev Component := List Token

inductive Fault
  /-- More than two stars in a row. -/
  | wildcards
  /-- Two stars that are only part of a component. -/
  | recursion
  /-- A class that is empty or not closed. -/
  | range
deriving DecidableEq

/-- A fault and the character that it was found at, counted from zero. -/
structure PatternError where
  position : Nat
  fault : Fault
deriving DecidableEq

def Fault.message : Fault → String
  | wildcards => "wildcards are either regular `*` or recursive `**`"
  | recursion => "recursive wildcards must form a single path component"
  | range => "invalid range pattern"

def PatternError.message (e : PatternError) : String :=
  "Pattern syntax error near position " ++ count e.position ++ ": " ++ e.fault.message

/-- The items of a class; a hyphen between two characters makes a range. -/
def classItems : List Char → List ClassItem
  | a :: '-' :: b :: rest => .range a b :: classItems rest
  | a :: rest => .single a :: classItems rest
  | [] => []

/-- A class after its opening bracket: whether it is negated, its characters, and what follows. Its
first character may be a closing bracket. -/
def class? (cs : List Char) : Option (Bool × List Char × List Char) :=
  let closed (negated : Bool) (first : Char) (rest : List Char) :=
    match rest.dropWhile (· != ']') with
    | _ :: after => some (negated, first :: rest.takeWhile (· != ']'), after)
    | [] => none
  match cs with
  | '!' :: first :: rest => closed true first rest
  | '!' :: [] => none
  | first :: rest => closed false first rest
  | [] => none

/-- Reads tokens from a position on. `before` is the character in front, which two stars need to be
a slash or absent. The slash after two stars belongs to them. -/
def tokensFrom : Nat → Nat → Option Char → List Char → Except PatternError (List Token)
  | 0, _, _, _ => .ok []
  | _, _, _, [] => .ok []
  | fuel + 1, position, before, '*' :: rest =>
    let stars := 1 + (rest.takeWhile (· == '*')).length
    let after := rest.dropWhile (· == '*')
    if stars > 2 then .error ⟨position + 2, .wildcards⟩
    else if stars = 1 then do
      return .anySequence :: (← tokensFrom fuel (position + 1) (some '*') after)
    else if before = none ∨ before = some '/' then
      match after with
      | [] => .ok [.anyDirectories]
      | '/' :: after => do
        return .anyDirectories :: (← tokensFrom fuel (position + 3) (some '/') after)
      | _ => .error ⟨position + 2, .recursion⟩
    else .error ⟨position - 1, .recursion⟩
  | fuel + 1, position, _, '?' :: rest => do
    return .anyChar :: (← tokensFrom fuel (position + 1) (some '?') rest)
  | fuel + 1, position, _, '[' :: rest =>
    match class? rest with
    | some (negated, members, after) => do
      let items := classItems members
      let width := members.length + (if negated then 3 else 2)
      return (if negated then .noneOf items else .oneOf items) ::
        (← tokensFrom fuel (position + width) (some ']') after)
    | none => .error ⟨position, .range⟩
  | fuel + 1, position, _, c :: rest => do
    return .char c :: (← tokensFrom fuel (position + 1) (some c) rest)

/-- The tokens of a text, or the first fault in it. -/
def tokens (cs : List Char) : Except PatternError (List Token) :=
  tokensFrom (cs.length + 1) 0 none cs

/-- The component that stands for any number of directories. -/
def isRecursive (c : Component) : Bool :=
  c == [.anyDirectories]

/-- The only text that a component without wildcards matches. -/
def literal? : Component → Option (List Char)
  | [] => some []
  | .char c :: rest => (literal? rest).map (c :: ·)
  | _ :: _ => none

/-- Whether a token can stand for this one character. -/
def Token.accepts (c : Char) : Token → Bool
  | char d => c == d
  | anyChar => true
  | anySequence | anyDirectories => false
  | oneOf items => items.any (·.contains c)
  | noneOf items => !items.any (·.contains c)

/-- Whether any end of a text satisfies `p`, the text itself and the empty text included. -/
def anySuffix (p : List Char → Bool) : List Char → Bool
  | [] => p []
  | c :: rest => p (c :: rest) || anySuffix p rest

/-- Whether the tokens match the whole of a text. -/
def matchesTokens : List Token → List Char → Bool
  | [], cs => cs.isEmpty
  | .anySequence :: ts, cs => anySuffix (matchesTokens ts) cs
  | .anyDirectories :: ts, cs => anySuffix (matchesTokens ts) cs
  | _ :: _, [] => false
  | t :: ts, c :: cs => t.accepts c && matchesTokens ts cs

def matchesName (component : Component) (name : String) : Bool :=
  matchesTokens component name.toList

/-- Brackets around every character that would not stand for itself. -/
def escape (cs : List Char) : List Char :=
  cs.flatMap fun c =>
    if c = '?' ∨ c = '*' ∨ c = '[' ∨ c = ']' then ['[', c, ']'] else [c]

/-- A pattern read for walking a tree. -/
structure Pattern where
  /-- Whether it starts at the root rather than at the current directory. -/
  absolute : Bool
  components : List Component
  /-- A slash at the end asks for directories. -/
  directoriesOnly : Bool
deriving DecidableEq

/-- Reads each of the texts. -/
def readComponents : List (List Char) → Except PatternError (List Component)
  | [] => .ok []
  | c :: cs => do return (← tokens c) :: (← readComponents cs)

/-- The pieces between slashes; a slash at the end opens no further piece. -/
def componentTexts (cs : List Char) : List (List Char) :=
  let ps := pieces (· == '/') cs
  if ps.getLast? = some [] then ps.dropLast else ps

def Pattern.read (cs : List Char) : Except PatternError Pattern := do
  let _ ← tokens cs
  let absolute := cs.head? == some '/'
  let rest := if absolute then cs.tail else cs
  let components ← readComponents (componentTexts rest)
  return ⟨absolute, if absolute && rest.isEmpty then [[]] else components,
    cs.getLast? == some '/'⟩

end EngineTrials.Glob
