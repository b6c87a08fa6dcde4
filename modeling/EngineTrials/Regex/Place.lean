import EngineTrials.Unicode.Property

/-!
# Places in a line

A match moves from place to place between the characters of a line. An anchor is a condition on a
place that consumes nothing.
-/
namespace EngineTrials
open Unicode

/-- Conditions on the word characters to the left and to the right. -/
inductive WordEdge
  | boundary
  | interior
  | start
  | stop
  | startHalf
  | stopHalf
deriving DecidableEq

/-- Conditions on a place between two characters. -/
inductive Anchor
  | textStart
  | textEnd
  | lineStart
  | lineEnd
  /-- Lines that end in a carriage return, a line feed or both. -/
  | crlfLineStart
  | crlfLineEnd
  | word (unicode : Bool) (edge : WordEdge)
deriving DecidableEq

/-- A place in a line: how far in it is, the character before it and the characters after it. -/
structure Place where
  index : Nat
  before : Option Char
  rest : List Char

namespace Place

def start (line : List Char) : Place := ⟨0, none, line⟩

/-- Steps over a character of the set. -/
def step? (set : CodeRanges) (p : Place) : Option Place :=
  match p.rest with
  | [] => none
  | c :: rest => if set.contains c then some ⟨p.index + 1, some c, rest⟩ else none

/-- Letters, marks, decimal digits, connectors and joiners. -/
def wordCharacters : CodeRanges :=
  .union Property.alphabetic.members
    (.union (ofCategories ["Mn", "Mc", "Me", "Nd", "Pc"]) Property.joinControl.members)

def asciiWordCharacters : CodeRanges :=
  .ofIntervals [(0x30, 0x39), (0x41, 0x5A), (0x5F, 0x5F), (0x61, 0x7A)]

def isWord (unicode : Bool) (c : Option Char) : Bool :=
  match c with
  | none => false
  | some c => (if unicode then wordCharacters else asciiWordCharacters).contains c

def holdsEdge (before after : Bool) : WordEdge → Bool
  | .boundary => before != after
  | .interior => before == after
  | .start => !before && after
  | .stop => before && !after
  | .startHalf => !before
  | .stopHalf => !after

def holds (p : Place) : Anchor → Bool
  | .textStart => p.before.isNone
  | .textEnd => p.rest.isEmpty
  | .lineStart => p.before.isNone || p.before == some '\n'
  | .lineEnd => p.rest.isEmpty || p.rest.head? == some '\n'
  | .crlfLineStart => p.before.isNone || p.before == some '\n' ||
      (p.before == some '\r' && p.rest.head? != some '\n')
  | .crlfLineEnd => p.rest.isEmpty || p.rest.head? == some '\r' ||
      (p.rest.head? == some '\n' && p.before != some '\r')
  | .word unicode edge => holdsEdge (isWord unicode p.before) (isWord unicode p.rest.head?) edge

end Place

end EngineTrials
