import EngineTrials.Shell.Command

/-!
# Shell patterns

`*` stands for any text, `?` for one byte and brackets for one byte of a set. A quoted character
stands for itself.
-/
namespace EngineTrials.Shell

/-- A character, and whether it is quoted. -/
abbrev Marked := Char × Bool

namespace Pattern

inductive Item
  | char (c : Char)
  | anyChar
  | anyText
  | oneOf (negated : Bool) (members : Char → Bool)

/-- The members of a named class of bytes. -/
def classMember (name : String) (c : Char) : Bool :=
  let isUpper := 'A' ≤ c && c ≤ 'Z'
  let isLower := 'a' ≤ c && c ≤ 'z'
  let isDecimal := '0' ≤ c && c ≤ '9'
  let isGraph := '!' ≤ c && c ≤ '~'
  if name = "alpha" then isUpper || isLower
  else if name = "digit" then isDecimal
  else if name = "alnum" then isUpper || isLower || isDecimal
  else if name = "upper" then isUpper
  else if name = "lower" then isLower
  else if name = "space" then c == ' ' || ('\t' ≤ c && c ≤ '\r')
  else if name = "blank" then c == ' ' || c == '\t'
  else if name = "punct" then isGraph && !(isUpper || isLower || isDecimal)
  else if name = "print" then isGraph || c == ' '
  else if name = "graph" then isGraph
  else if name = "cntrl" then c.toNat < 32 || c.toNat == 127
  else if name = "xdigit" then
    isDecimal || ('a' ≤ c && c ≤ 'f') || ('A' ≤ c && c ≤ 'F')
  else false

/-- The members between brackets from here on and what follows the closing one. A bracket that
stands `first` closes nothing. -/
def members : Nat → Bool → List Marked → Option ((Char → Bool) × List Marked)
  | 0, _, _ => none
  | fuel + 1, first, cs =>
    match cs with
    | [] => none
    | (']', false) :: rest =>
      if first then
        (members fuel false rest).map fun (m, after) => (fun c => c == ']' || m c, after)
      else some (fun _ => false, rest)
    | ('[', false) :: (':', false) :: rest =>
      let name := rest.takeWhile fun (c, _) => c != ':'
      let after := rest.drop (name.length + 2)
      (members fuel false after).map fun (m, after) =>
        (fun c => classMember (String.ofList (name.map Prod.fst)) c || m c, after)
    | (a, _) :: ('-', false) :: (']', false) :: rest =>
      (members fuel false (('-', false) :: (']', false) :: rest)).map fun (m, after) =>
        (fun c => c == a || m c, after)
    | (a, _) :: ('-', false) :: (b, _) :: rest =>
      (members fuel false rest).map fun (m, after) => (fun c => (a ≤ c && c ≤ b) || m c, after)
    | (a, _) :: rest =>
      (members fuel false rest).map fun (m, after) => (fun c => c == a || m c, after)

/-- The items of a pattern; a bracket that is not closed stands for itself. -/
def items : Nat → List Marked → List Item
  | 0, _ => []
  | fuel + 1, cs =>
    match cs with
    | [] => []
    | ('*', false) :: rest => .anyText :: items fuel rest
    | ('?', false) :: rest => .anyChar :: items fuel rest
    | ('[', false) :: rest =>
      let (negated, inner) := match rest with
        | ('!', false) :: inner => (true, inner)
        | ('^', false) :: inner => (true, inner)
        | inner => (false, inner)
      match members (inner.length + 1) true inner with
      | some (m, after) => .oneOf negated m :: items fuel after
      | none => .char '[' :: items fuel rest
    | (c, _) :: rest => .char c :: items fuel rest

def ofMarked (cs : List Marked) : List Item := items (cs.length + 1) cs

/-- Whether the items stand for the whole text. -/
def fits : List Item → ByteText → Bool
  | [], cs => cs.isEmpty
  | .char a :: rest, cs =>
    match cs with
    | [] => false
    | c :: more => c == a && fits rest more
  | .anyChar :: rest, cs =>
    match cs with
    | [] => false
    | _ :: more => fits rest more
  | .oneOf negated m :: rest, cs =>
    match cs with
    | [] => false
    | c :: more => (m c != negated) && fits rest more
  | .anyText :: rest, cs => (List.range (cs.length + 1)).any fun n => fits rest (cs.drop n)

/-- Whether there is anything but plain characters in a pattern. -/
def isActive (cs : List Marked) : Bool :=
  cs.any fun (c, quoted) => !quoted && ['*', '?', '['].contains c

/-- The text without the shortest or longest beginning that the pattern stands for. -/
def dropFront (pattern : List Item) (longest : Bool) (cs : ByteText) : ByteText :=
  let lengths := List.range (cs.length + 1)
  let tried := if longest then lengths.reverse else lengths
  match tried.find? fun n => fits pattern (cs.take n) with
  | some n => cs.drop n
  | none => cs

def dropBack (pattern : List Item) (longest : Bool) (cs : ByteText) : ByteText :=
  let lengths := List.range (cs.length + 1)
  let tried := if longest then lengths else lengths.reverse
  match tried.find? fun n => fits pattern (cs.drop n) with
  | some n => cs.take n
  | none => cs

end Pattern

end EngineTrials.Shell
