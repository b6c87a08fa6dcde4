import EngineTrials.Shell.Pattern
import EngineTrials.Text.Digits

/-!
# Expressions of editors

The regular expressions of `sed` and `grep`, with groups that are remembered and can be referred to.
A match is looked for by trying one alternative after the other and as many repetitions as possible
first.
-/
namespace EngineTrials.Shell.Matching
open Text

mutual

inductive Atom
  | char (c : Char)
  | anyChar
  | oneOf (negated : Bool) (members : Char → Bool)
  | group (number : Nat) (branches : List (List Term))
  | again (number : Nat)
  | lineStart
  | lineEnd

/-- An atom so many times. -/
inductive Term
  | mk (atom : Atom) (least : Nat) (greatest : Option Nat)

end

abbrev Branches := List (List Term)

/-- The basic notation has backslashes where the extended one has none. -/
structure Notation where
  extended : Bool
  ignoresCase : Bool := false

/-- A sign of the notation in front of a text. -/
inductive Sign
  | groupOpen | groupClose | bar | star | plus | question | brace
  | escaped (c : Char)
  | plain (c : Char)
deriving DecidableEq

def special? (c : Char) : Option Sign :=
  [('(', Sign.groupOpen), (')', .groupClose), ('|', .bar), ('+', .plus), ('?', .question),
    ('\x7b', .brace)].lookup c

/-- The first sign of a text and what follows it. -/
def sign (n : Notation) : ByteText → Option (Sign × ByteText)
  | [] => none
  | '*' :: rest => some (.star, rest)
  | '\\' :: c :: rest =>
    some (if n.extended then .escaped c else (special? c).getD (.escaped c), rest)
  | c :: rest => some (if n.extended then (special? c).getD (.plain c) else .plain c, rest)

/-- Bounds up to the closing brace. -/
def bounds? (n : Notation) (cs : ByteText) : Option (Nat × Option Nat × ByteText) :=
  let inner := cs.takeWhile fun c => isDigit c || c == ','
  let rest := cs.drop inner.length
  let rest? := match n.extended, rest with
    | true, '\x7d' :: rest => some rest
    | false, '\\' :: '\x7d' :: rest => some rest
    | _, _ => none
  let least := inner.takeWhile isDigit
  rest?.bind fun rest =>
    match inner.drop least.length with
    | [] => (natural? 10 least).map fun k => (k, some k, rest)
    | ',' :: greatest =>
      some ((natural? 10 least).getD 0,
        if greatest.isEmpty then none else natural? 10 greatest, rest)
    | _ => none

/-- Repetitions after an atom. -/
def repeats (n : Notation) : Nat → Term → ByteText → Term × ByteText
  | 0, t, cs => (t, cs)
  | fuel + 1, .mk atom least greatest, cs =>
    match sign n cs with
    | some (.star, rest) => repeats n fuel (.mk atom 0 none) rest
    | some (.plus, rest) => repeats n fuel (.mk atom least none) rest
    | some (.question, rest) => repeats n fuel (.mk atom 0 greatest) rest
    | some (.brace, rest) =>
      match bounds? n rest with
      | some (lo, hi, rest) => repeats n fuel (.mk atom lo hi) rest
      | none => (.mk atom least greatest, cs)
    | _ => (.mk atom least greatest, cs)

def escapedAtom (c : Char) : Atom :=
  match digit? 10 c with
  | some d => .again d
  | none =>
    if c == 'n' then .char '\n'
    else if c == 't' then .char '\t'
    else if c == 'w' then .oneOf false isNamePart
    else if c == 'W' then .oneOf true isNamePart
    else if c == 's' then .oneOf false (Pattern.classMember "space")
    else if c == 'S' then .oneOf true (Pattern.classMember "space")
    else .char c

mutual

/-- Branches up to a closing parenthesis or the end, with the number of the next group. -/
def branches (n : Notation) : Nat → Nat → ByteText → Option (Branches × Nat × ByteText)
  | 0, _, _ => none
  | fuel + 1, next, cs => do
    let (first, next, rest) ← terms n fuel next true cs
    match sign n rest with
    | some (.bar, rest) =>
      let (others, next, rest) ← branches n fuel next rest
      return (first :: others, next, rest)
    | _ => return ([first], next, rest)

def terms (n : Notation) : Nat → Nat → Bool → ByteText → Option (List Term × Nat × ByteText)
  | 0, _, _, _ => none
  | fuel + 1, next, first, cs =>
    match sign n cs with
    | none | some (.groupClose, _) | some (.bar, _) => some ([], next, cs)
    | some (s, rest) => do
      let (atom, next, rest) ← atom n fuel next first s rest
      let (term, rest) := repeats n (cs.length + 1) (.mk atom 1 (some 1)) rest
      let starts := match atom with
        | .lineStart => true
        | _ => false
      let (others, next, rest) ← terms n fuel next starts rest
      return (term :: others, next, rest)

def atom (n : Notation) : Nat → Nat → Bool → Sign → ByteText → Option (Atom × Nat × ByteText)
  | 0, _, _, _, _ => none
  | fuel + 1, next, first, s, rest =>
    match s with
    | .groupOpen => do
      let (inner, after, rest) ← branches n fuel (next + 1) rest
      match sign n rest with
      | some (.groupClose, rest) => return (.group next inner, after, rest)
      | _ => none
    | .escaped c => some (escapedAtom c, next, rest)
    | .star => if first then some (.char '*', next, rest) else none
    | .plus => some (.char '+', next, rest)
    | .question => some (.char '?', next, rest)
    | .brace => some (.char '\x7b', next, rest)
    | .plain '.' => some (.anyChar, next, rest)
    | .plain '^' =>
      if n.extended || first then some (.lineStart, next, rest) else some (.char '^', next, rest)
    | .plain '$' =>
      let atEnd := match sign n rest with
        | none | some (.groupClose, _) | some (.bar, _) => true
        | _ => n.extended
      if atEnd then some (.lineEnd, next, rest) else some (.char '$', next, rest)
    | .plain '[' => do
      let (negated, inner) := match rest with
        | '^' :: inner => (true, inner)
        | inner => (false, inner)
      let (members, after) ← Pattern.members (inner.length + 1) true (inner.map fun c => (c, false))
      return (.oneOf negated members, next, after.map Prod.fst)
    | .plain c => some (.char c, next, rest)
    | .groupClose | .bar => none

end

/-- The branches of an expression. -/
def read? (n : Notation) (text : ByteText) : Option Branches := do
  let (found, _, rest) ← branches n (8 * text.length + 16) 1 text
  if rest.isEmpty then return found else none

/-- What is matched so far: the text left, whether it begins the line, and the groups. -/
structure Place where
  rest : ByteText
  atStart : Bool
  groups : List (Nat × ByteText) := []

/-- What is still to be matched. -/
inductive Goal
  | term (t : Term)
  /-- The end of a group that began with so much text left. -/
  | closing (number : Nat) (start : ByteText)
  /-- Once more, unless nothing was matched since the text was this long. -/
  | more (t : Term) (length : Nat)

def sameChar (ignoresCase : Bool) (a b : Char) : Bool :=
  a == b || (ignoresCase && a.toLower == b.toLower)

/-- The first match of all goals that is found. `fuel` bounds the length of the way to it. -/
def solve (ignoresCase : Bool) : Nat → List Goal → Place → Option Place
  | 0, _, _ => none
  | _ + 1, [], p => some p
  | fuel + 1, .closing number start :: goals, p =>
    let text := start.take (start.length - p.rest.length)
    solve ignoresCase fuel goals { p with groups := (number, text) :: p.groups }
  | fuel + 1, .more t length :: goals, p =>
    if p.rest.length = length then none else solve ignoresCase fuel (.term t :: goals) p
  | fuel + 1, .term (.mk a least greatest) :: goals, p =>
    let repeated : Bool := greatest != some 0
    let fewer := greatest.map (· - 1)
    let again : List Goal :=
      if least ≤ 1 ∧ greatest == some 1 then goals
      else if least = 0 then .more (.mk a 0 fewer) p.rest.length :: goals
      else .term (.mk a (least - 1) fewer) :: goals
    let step (holds : Bool) (n : Nat) : Option Place :=
      if holds then
        solve ignoresCase fuel again
          { p with rest := p.rest.drop n, atStart := p.atStart && n == 0 }
      else none
    let onChar (test : Char → Bool) : Option Place := step (p.rest.head?.any test) 1
    let taken := if repeated then
        match a with
        | .char c => onChar (sameChar ignoresCase c)
        | .anyChar => onChar fun _ => true
        | .oneOf negated members =>
          onChar fun c =>
            (members c || (ignoresCase && (members c.toLower || members c.toUpper))) != negated
        | .lineStart => step p.atStart 0
        | .lineEnd => step p.rest.isEmpty 0
        | .again number =>
          let text := (p.groups.lookup number).getD []
          step (text.isPrefixOf p.rest) text.length
        | .group number inner =>
          inner.findSome? fun branch =>
            solve ignoresCase fuel (branch.map .term ++ .closing number p.rest :: again) p
      else none
    match taken with
    | some place => some place
    | none => if least = 0 then solve ignoresCase fuel goals p else none

/-- What matched: the text before it, itself, the text after it, and the groups. -/
structure Found where
  before : ByteText
  text : ByteText
  after : ByteText
  groups : List (Nat × ByteText)

def depthLimit : Nat := 1000000

/-- The leftmost match in a text that goes on after `before`, which is reversed. -/
def search (ignoresCase : Bool) (e : Branches) : Bool → ByteText → ByteText → Option Found
  | atStart, before, cs =>
    let here := e.findSome? fun branch =>
      solve ignoresCase depthLimit (branch.map .term) { rest := cs, atStart }
    match here with
    | some p => some ⟨before.reverse, cs.take (cs.length - p.rest.length), p.rest, p.groups⟩
    | none =>
      match cs with
      | [] => none
      | c :: rest => search ignoresCase e false (c :: before) rest

end EngineTrials.Shell.Matching
