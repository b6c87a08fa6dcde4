import EngineTrials.Number.Word
import EngineTrials.Regex.Tree

/-!
# Reading patterns

A recursive-descent reader over the characters of a pattern. Each function returns what it read and
the characters after it, or nothing if the pattern is malformed. In extended mode blanks and
comments between the parts of a pattern are ignored.
-/
namespace EngineTrials.Pattern
open Text Unicode

/-- Drops blanks and comments; a comment runs to the end of its line. -/
def dropIgnored : Bool → List Char → List Char
  | _, [] => []
  | true, c :: rest => dropIgnored (c != '\n') rest
  | false, c :: rest =>
    if isBlank c then dropIgnored false rest
    else if c = '#' then dropIgnored true rest
    else c :: rest

/-- Drops what extended mode ignores. -/
def skip (extended : Bool) (cs : List Char) : List Char :=
  if extended then dropIgnored false cs else cs

/-- What stands before the next closing brace, without what is ignored, and what follows it. -/
def upToBrace? (extended : Bool) : Bool → List Char → Option (List Char × List Char)
  | _, [] => none
  | true, c :: rest => upToBrace? extended (c != '\n') rest
  | false, c :: rest =>
    if c = '\x7d' then some ([], rest)
    else if extended && isBlank c then upToBrace? extended false rest
    else if extended && c == '#' then upToBrace? extended true rest
    else (upToBrace? extended false rest).map fun (cs, rest) => (c :: cs, rest)

def scalar? (n : Nat) : Option Char :=
  if h : n.isValidChar then some (Char.ofNatAux n h) else none

/-- As many hexadecimal digits as the kind of escape has. -/
def hexDigits? (extended : Bool) : Nat → Nat → List Char → Option (Nat × List Char)
  | 0, value, cs => some (value, cs)
  | _ + 1, _, [] => none
  | n + 1, value, c :: rest => do
    hexDigits? extended n (value * 16 + (← digit? 16 c)) (skip extended rest)

/-- A character by its number, after the letter that says how many digits there are. -/
def hexEscape? (extended : Bool) (width : Nat) (cs : List Char) : Option (Atom × List Char) :=
  match skip extended cs with
  | '\x7b' :: rest => do
    let (digits, rest) ← upToBrace? extended false (skip extended rest)
    return (.literal (← scalar? (← natural? 16 digits)) false, rest)
  | cs => do
    let (value, rest) ← hexDigits? extended width 0 cs
    return (.literal (← scalar? value) (width == 2), rest)

/-- The first place where `mark` occurs, as what is before it and what is after. -/
def splitAtFirst? (mark : List Char) : List Char → Option (List Char × List Char)
  | [] => none
  | c :: rest =>
    if mark.isPrefixOf (c :: rest) then some ([], (c :: rest).drop mark.length)
    else (splitAtFirst? mark rest).map fun (a, b) => (c :: a, b)

/-- A property in braces; `!=` negates it once more. -/
def bracedProperty (name : List Char) (negated : Bool) : Atom :=
  match splitAtFirst? ['!', '='] name with
  | some (a, b) => .property (.valued a b) (!negated)
  | none =>
    match (splitAtFirst? [':'] name).or (splitAtFirst? ['='] name) with
    | some (a, b) => .property (.valued a b) negated
    | none => .property (.named name) negated

def propertyEscape? (extended negated : Bool) (cs : List Char) : Option (Atom × List Char) :=
  match skip extended cs with
  | [] => none
  | '\x7b' :: rest => do
    let (name, rest) ← upToBrace? extended false (skip extended rest)
    return (bracedProperty name negated, rest)
  | c :: rest => if c = '\\' then none else some (.property (.named [c]) negated, rest)

/-- The word edges that have names. -/
def namedEdge? (name : List Char) : Option WordEdge :=
  let name := String.ofList name
  if name = "start" then some .start
  else if name = "end" then some .stop
  else if name = "start-half" then some .startHalf
  else if name = "end-half" then some .stopHalf
  else none

def isEdgeNameLetter (c : Char) : Bool :=
  ('A' ≤ c && c ≤ 'Z') || ('a' ≤ c && c ≤ 'z') || c == '-'

/-- A word boundary. A brace that a letter or hyphen follows names another edge of words. -/
def boundaryEscape? (extended : Bool) (cs : List Char) : Option (Atom × List Char) :=
  match cs with
  | '\x7b' :: rest =>
    match skip extended rest with
    | [] => none
    | c :: inner =>
      if isEdgeNameLetter c then do
        let (name, rest) ← upToBrace? extended false (c :: inner)
        return (.assertion (.word (← namedEdge? name)), rest)
      else some (.assertion (.word .boundary), cs)
  | cs => some (.assertion (.word .boundary), cs)

/-- Every ASCII character but letters, digits and angle brackets can be escaped. -/
def isEscapable (c : Char) : Bool :=
  c.toNat < 0x80 && !c.isAlphanum && c != '<' && c != '>'

/-- What follows a backslash. -/
def escape? (extended : Bool) : List Char → Option (Atom × List Char)
  | [] => none
  | c :: rest =>
    match c with
    | 'x' => hexEscape? extended 2 rest
    | 'u' => hexEscape? extended 4 rest
    | 'U' => hexEscape? extended 8 rest
    | 'p' => propertyEscape? extended false rest
    | 'P' => propertyEscape? extended true rest
    | 'd' => some (.letter .digit false, rest)
    | 'D' => some (.letter .digit true, rest)
    | 's' => some (.letter .space false, rest)
    | 'S' => some (.letter .space true, rest)
    | 'w' => some (.letter .word false, rest)
    | 'W' => some (.letter .word true, rest)
    | 'a' => some (.literal '\x07' false, rest)
    | 'f' => some (.literal '\x0c' false, rest)
    | 't' => some (.literal '\t' false, rest)
    | 'n' => some (.literal '\n' false, rest)
    | 'r' => some (.literal '\r' false, rest)
    | 'v' => some (.literal '\x0b' false, rest)
    | 'A' => some (.assertion .textStart, rest)
    | 'z' => some (.assertion .textEnd, rest)
    | 'b' => boundaryEscape? extended rest
    | 'B' => some (.assertion (.word .interior), rest)
    | '<' => some (.assertion (.word .start), rest)
    | '>' => some (.assertion (.word .stop), rest)
    | c => if isEscapable c then some (.literal c false, rest) else none

/-- The classes written `[:name:]` within brackets. -/
def posixClass? (name : List Char) : Option CodeRanges :=
  let name := String.ofList name
  let set (is : List (Nat × Nat)) : Option CodeRanges := some (.ofIntervals is)
  if name = "alnum" then set [(0x30, 0x39), (0x41, 0x5A), (0x61, 0x7A)]
  else if name = "alpha" then set [(0x41, 0x5A), (0x61, 0x7A)]
  else if name = "ascii" then set [(0, 0x7F)]
  else if name = "blank" then set [(0x09, 0x09), (0x20, 0x20)]
  else if name = "cntrl" then set [(0, 0x1F), (0x7F, 0x7F)]
  else if name = "digit" then set [(0x30, 0x39)]
  else if name = "graph" then set [(0x21, 0x7E)]
  else if name = "lower" then set [(0x61, 0x7A)]
  else if name = "print" then set [(0x20, 0x7E)]
  else if name = "punct" then set [(0x21, 0x2F), (0x3A, 0x40), (0x5B, 0x60), (0x7B, 0x7E)]
  else if name = "space" then set [(0x09, 0x0D), (0x20, 0x20)]
  else if name = "upper" then set [(0x41, 0x5A)]
  else if name = "word" then set [(0x30, 0x39), (0x41, 0x5A), (0x5F, 0x5F), (0x61, 0x7A)]
  else if name = "xdigit" then set [(0x30, 0x39), (0x41, 0x46), (0x61, 0x66)]
  else none

/-- A class `[:name:]` or `[:^name:]` after its opening bracket. -/
def posixTerm? (cs : List Char) : Option (ClassTerm × List Char) :=
  match cs with
  | ':' :: rest =>
    let (negated, rest) := match rest with
      | '^' :: rest => (true, rest)
      | rest => (false, rest)
    match rest.dropWhile (· != ':') with
    | ':' :: ']' :: after =>
      (posixClass? (rest.takeWhile (· != ':'))).map fun set => (.posix set negated, after)
    | _ => none
  | _ => none

/-- One end of a range, or an item that is none. -/
def classAtom? (extended : Bool) : List Char → Option (Atom × List Char)
  | [] => none
  | '\\' :: rest => escape? extended rest
  | c :: rest => some (.literal c false, rest)

/-- Anchors and the dot are no items of a class. -/
def classItem? : Atom → Option ClassTerm
  | .literal c _ => some (.literal c)
  | .letter kind negated => some (.letter kind negated)
  | .property name negated => some (.property name negated)
  | .dot | .assertion _ => none

/-- A range, or a lone item. A hyphen before a closing bracket or a hyphen makes no range. -/
def classRange? (extended : Bool) (cs : List Char) : Option (ClassTerm × List Char) := do
  let (first, rest) ← classAtom? extended cs
  match skip extended rest with
  | [] => none
  | '-' :: after =>
    match skip extended after with
    | [] => none
    | ']' :: _ => return (← classItem? first, '-' :: after)
    | '-' :: _ => return (← classItem? first, '-' :: after)
    | after => do
      let (last, rest) ← classAtom? extended after
      match first, last with
      | .literal a _, .literal b _ => if a ≤ b then return (.range a b, rest) else none
      | _, _ => none
  | rest => return (← classItem? first, rest)

/-- Hyphens at the start of a class stand for themselves. -/
def leadingHyphens (extended : Bool) : Nat → List Char → List ClassTerm × List Char
  | 0, cs => ([], cs)
  | fuel + 1, cs =>
    match cs with
    | '-' :: rest =>
      let (items, rest) := leadingHyphens extended fuel (skip extended rest)
      (.literal '-' :: items, rest)
    | cs => ([], cs)

/-- The start of a class after its opening bracket: whether it is negated, and the items that only
stand for themselves because they come first. -/
def classOpening (extended : Bool) (cs : List Char) : Bool × List ClassTerm × List Char :=
  let cs := skip extended cs
  let (negated, cs) := match cs with
    | '^' :: rest => (true, skip extended rest)
    | cs => (false, cs)
  match leadingHyphens extended cs.length cs with
  | ([], ']' :: rest) => (negated, [.literal ']'], skip extended rest)
  | (items, rest) => (negated, items, rest)

/-- Joins what stands left of a class operation with what stands right of it. -/
def combine (pending : Option (ClassOperation × ClassTerm)) (right : ClassTerm) : ClassTerm :=
  match pending with
  | none => right
  | some (operation, left) => .combined operation left right

/-- The rest of a class up to and with its closing bracket. `pending` is an operation whose right
side is being read, `items` the items read so far, the last one first. -/
def classBody? (extended : Bool) : Nat → Option (ClassOperation × ClassTerm) → List ClassTerm →
    List Char → Option (ClassTerm × List Char)
  | 0, _, _, _ => none
  | fuel + 1, pending, items, cs =>
    let soFar := combine pending (.ofItems items.reverse)
    let operation (op : ClassOperation) (rest : List Char) :=
      classBody? extended fuel (some (op, soFar)) [] rest
    match skip extended cs with
    | [] => none
    | ']' :: rest => some (soFar, rest)
    | '&' :: '&' :: rest => operation .intersection rest
    | '-' :: '-' :: rest => operation .difference rest
    | '~' :: '~' :: rest => operation .symmetricDifference rest
    | '[' :: rest =>
      match posixTerm? rest with
      | some (term, rest) => classBody? extended fuel pending (term :: items) rest
      | none => do
        let (negated, first, rest) := classOpening extended rest
        let (inner, rest) ← classBody? extended fuel none first.reverse rest
        classBody? extended fuel pending (.bracketed negated inner :: items) rest
    | cs => do
      let (term, rest) ← classRange? extended cs
      classBody? extended fuel pending (term :: items) rest

/-- A class after its opening bracket. -/
def class? (extended : Bool) (cs : List Char) : Option (Tree × List Char) := do
  let (negated, first, rest) := classOpening extended cs
  let (body, rest) ← classBody? extended (rest.length + 1) none first.reverse rest
  return (.bracketed negated body, rest)

/-- The digits of a count, without what is ignored. -/
def countDigits (extended : Bool) : Bool → List Char → List Char × List Char
  | _, [] => ([], [])
  | true, c :: rest => countDigits extended (c != '\n') rest
  | false, c :: rest =>
    if isDigit c then
      let (ds, rest) := countDigits extended false rest
      (c :: ds, rest)
    else if extended && isBlank c then countDigits extended false rest
    else if extended && c == '#' then countDigits extended true rest
    else ([], c :: rest)

/-- A 32-bit count, which blanks may surround. -/
def count? (extended : Bool) (cs : List Char) : Option (Nat × List Char) := do
  let (digits, rest) := countDigits extended false (cs.dropWhile isBlank)
  let n ← natural? 10 digits
  if fitsUnsigned 32 n then return (n, skip extended (rest.dropWhile isBlank)) else none

/-- A question mark after a repetition asks for the shortest match; any match will do here. -/
def dropLazyMark : List Char → List Char
  | '?' :: rest => rest
  | cs => cs

/-- The bounds of a counted repetition after the opening brace. -/
def bounds? (extended : Bool) (cs : List Char) : Option ((Nat × Option Nat) × List Char) := do
  let (least, rest) ← count? extended (skip extended cs)
  match rest with
  | '\x7d' :: rest => return ((least, some least), dropLazyMark (skip extended rest))
  | ',' :: rest =>
    match skip extended rest with
    | '\x7d' :: rest => return ((least, none), dropLazyMark (skip extended rest))
    | rest => do
      let (greatest, rest) ← count? extended rest
      match rest with
      | '\x7d' :: rest =>
        if least ≤ greatest then
          return ((least, some greatest), dropLazyMark (skip extended rest))
        else none
      | _ => none
  | _ => none

/-- Repeats the last item, the first of the list. Flags cannot be repeated. -/
def repeatLast? (bounds : Nat × Option Nat) : List Tree → Option (List Tree)
  | [] => none
  | .empty :: _ => none
  | .setFlags _ :: _ => none
  | t :: ts => some (.iterated bounds.1 bounds.2 t :: ts)

def flag? : Char → Option Flag
  | 'i' => some .caseless
  | 'm' => some .multiline
  | 's' => some .dotMatchesAll
  | 'U' => some .swapGreed
  | 'u' => some .unicode
  | 'R' => some .crlf
  | 'x' => some .extended
  | _ => none

/-- Flags up to a colon or closing parenthesis, which is returned too. No flag may occur twice, and
a hyphen, of which there is at most one, must be followed by a flag. -/
def flags? (cleared dangling : Bool) (changes : FlagChanges) :
    List Char → Option (FlagChanges × Char × List Char)
  | [] => none
  | c :: rest =>
    if c = ':' ∨ c = ')' then if dangling then none else some (changes, c, rest)
    else if c = '-' then if cleared then none else flags? true true changes rest
    else do
      let flag ← flag? c
      if changes.any fun change => change.1 == flag then none
      else flags? cleared false (changes ++ [(flag, !cleared)]) rest

/-- Letters and the underscore can begin a group name; digits, dots and brackets can follow. -/
def isNameCharacter (first : Bool) (c : Char) : Bool :=
  c == '_' || Property.alphabetic.members.contains c ||
    (!first && (c == '.' || c == '[' || c == ']' || (ofCategories ["Nd", "Nl", "No"]).contains c))

def isGroupName : List Char → Bool
  | [] => false
  | c :: rest => isNameCharacter true c && rest.all (isNameCharacter false)

/-- What an opening parenthesis can begin. -/
inductive Opening
  | setFlags (changes : FlagChanges)
  | group (changes : FlagChanges) (name : Option (List Char))

def namedGroup? (cs : List Char) : Option (Opening × List Char) :=
  let name := cs.takeWhile (· != '>')
  match cs.dropWhile (· != '>') with
  | _ :: rest => if isGroupName name then some (.group [] (some name), rest) else none
  | [] => none

/-- What follows an opening parenthesis. There is no looking around. -/
def opening? (extended : Bool) (cs : List Char) : Option (Opening × List Char) :=
  match skip extended cs with
  | '?' :: '=' :: _ => none
  | '?' :: '!' :: _ => none
  | '?' :: '<' :: '=' :: _ => none
  | '?' :: '<' :: '!' :: _ => none
  | '?' :: 'P' :: '<' :: rest => namedGroup? rest
  | '?' :: '<' :: rest => namedGroup? rest
  | '?' :: rest => do
    let (changes, close, rest) ← flags? false false [] rest
    if close = ':' then return (.group changes none, rest)
    else if changes.isEmpty then none
    else return (.setFlags changes, rest)
  | rest => some (.group [] none, rest)

/-- Whether extended mode is on after the changes. -/
def extendedAfter (extended : Bool) (changes : FlagChanges) : Bool :=
  match changes.find? fun change => change.1 == .extended with
  | some (_, on) => on
  | none => extended

/-- Names of groups are all different. -/
def addName? (names : List (List Char)) : Option (List Char) → Option (List (List Char))
  | none => some names
  | some name => if names.contains name then none else some (name :: names)

/-- A character outside brackets that is no operator. -/
def plainAtom? (extended : Bool) : List Char → Option (Atom × List Char)
  | [] => none
  | '\\' :: rest => escape? extended rest
  | '.' :: rest => some (.dot, rest)
  | '^' :: rest => some (.assertion .caret, rest)
  | '$' :: rest => some (.assertion .dollar, rest)
  | c :: rest => some (.literal c false, rest)

/-- The rest of a group up to its closing parenthesis, or of the pattern. `branches` holds the
alternatives that are complete and `items` the items of the current one, both with the last first;
`names` are the group names used so far. -/
def body? : Nat → Bool → List (List Char) → List Tree → List Tree → List Char →
    Option (Tree × List (List Char) × List Char)
  | 0, _, _, _, _, _ => none
  | fuel + 1, extended, names, branches, items, cs =>
    let branch := Tree.ofItems items.reverse
    let repeated (bounds : Nat × Option Nat) (rest : List Char) := do
      body? fuel extended names branches (← repeatLast? bounds items) rest
    match skip extended cs with
    | [] => some (.ofBranches (branch :: branches).reverse, names, [])
    | ')' :: rest => some (.ofBranches (branch :: branches).reverse, names, ')' :: rest)
    | '|' :: rest => body? fuel extended names (branch :: branches) [] rest
    | '?' :: rest => repeated (0, some 1) (dropLazyMark rest)
    | '*' :: rest => repeated (0, none) (dropLazyMark rest)
    | '+' :: rest => repeated (1, none) (dropLazyMark rest)
    | '\x7b' :: rest => do
      let (bounds, rest) ← bounds? extended rest
      repeated bounds rest
    | '[' :: rest => do
      let (term, rest) ← class? extended rest
      body? fuel extended names branches (term :: items) rest
    | '(' :: rest => do
      match ← opening? extended rest with
      | (.setFlags changes, rest) =>
        body? fuel (extendedAfter extended changes) names branches (.setFlags changes :: items) rest
      | (.group changes name, rest) =>
        let names ← addName? names name
        let (inner, names, rest) ← body? fuel (extendedAfter extended changes) names [] [] rest
        match rest with
        | ')' :: rest => body? fuel extended names branches (.group changes inner :: items) rest
        | _ => none
    | cs => do
      let (atom, rest) ← plainAtom? extended cs
      body? fuel extended names branches (.atom atom :: items) rest

mutual

/-- How deep class terms are nested in one another. -/
def ClassTerm.depth : ClassTerm → Nat
  | .bracketed _ body => body.depth + 1
  | .union items => ClassTerm.depthAll items + 1
  | .combined _ left right => max left.depth right.depth + 1
  | _ => 0

def ClassTerm.depthAll : List ClassTerm → Nat
  | [] => 0
  | t :: ts => max t.depth (ClassTerm.depthAll ts)

end

mutual

/-- How deep the parts of a pattern are nested in one another. -/
def Tree.depth : Tree → Nat
  | .bracketed _ body => body.depth + 1
  | .group _ body => body.depth + 1
  | .iterated _ _ body => body.depth + 1
  | .concat items => Tree.depthAll items + 1
  | .alternation branches => Tree.depthAll branches + 1
  | _ => 0

def Tree.depthAll : List Tree → Nat
  | [] => 0
  | t :: ts => max t.depth (Tree.depthAll ts)

end

/-- Patterns nested deeper are refused. -/
def depthLimit : Nat := 250

/-- Reads a whole pattern. -/
def Tree.read? (cs : List Char) : Option Tree := do
  let (tree, _, rest) ← body? (cs.length + 1) false [] [] [] cs
  if rest.isEmpty ∧ tree.depth ≤ depthLimit then return tree else none

end EngineTrials.Pattern
