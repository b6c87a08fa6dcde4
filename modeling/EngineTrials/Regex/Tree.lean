import EngineTrials.Regex.Place
import EngineTrials.Unicode.Query

/-!
# Patterns

A regular expression as it is written. Flags apply from where they are set to the end of the group
they are set in.
-/
namespace EngineTrials.Pattern
open Unicode

/-- The classes written as a letter after a backslash, or as its capital for all the others. -/
inductive LetterClass
  | digit
  | space
  | word
deriving DecidableEq

inductive ClassOperation
  | intersection
  | difference
  | symmetricDifference
deriving DecidableEq

/-- The name after `\p`. -/
inductive PropertyName
  | named (name : List Char)
  | valued (property value : List Char)

/-- What stands between the brackets of a character class. -/
inductive ClassTerm
  | literal (c : Char)
  | range (first last : Char)
  | letter (kind : LetterClass) (negated : Bool)
  | posix (set : CodeRanges) (negated : Bool)
  | property (name : PropertyName) (negated : Bool)
  | bracketed (negated : Bool) (body : ClassTerm)
  | union (items : List ClassTerm)
  | combined (operation : ClassOperation) (left right : ClassTerm)

inductive Flag
  | caseless
  | multiline
  | dotMatchesAll
  | swapGreed
  | unicode
  | crlf
  | extended
deriving DecidableEq

/-- Flags that are set or cleared together. -/
abbrev FlagChanges := List (Flag × Bool)

/-- An assertion, before flags decide what it says about lines and words. -/
inductive Assertion
  | caret
  | dollar
  | textStart
  | textEnd
  | word (edge : WordEdge)
deriving DecidableEq

/-- What a backslash, or a character outside brackets, stands for by itself. -/
inductive Atom
  /-- `asByte` marks a character given by the two digits of a byte. -/
  | literal (c : Char) (asByte : Bool)
  | dot
  | assertion (a : Assertion)
  | letter (kind : LetterClass) (negated : Bool)
  | property (name : PropertyName) (negated : Bool)

inductive Tree
  | empty
  | atom (a : Atom)
  | bracketed (negated : Bool) (body : ClassTerm)
  | setFlags (changes : FlagChanges)
  | group (changes : FlagChanges) (body : Tree)
  | iterated (least : Nat) (greatest : Option Nat) (body : Tree)
  | concat (items : List Tree)
  | alternation (branches : List Tree)
deriving Inhabited

/-- Items in sequence; a single one stands for itself. -/
def Tree.ofItems : List Tree → Tree
  | [] => .empty
  | [t] => t
  | ts => .concat ts

def Tree.ofBranches : List Tree → Tree
  | [t] => t
  | ts => .alternation ts

def ClassTerm.ofItems : List ClassTerm → ClassTerm
  | [t] => t
  | ts => .union ts

end EngineTrials.Pattern
