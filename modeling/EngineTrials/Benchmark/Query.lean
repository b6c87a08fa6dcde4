import EngineTrials.Text.Digits
import EngineTrials.Text.Payload
import EngineTrials.Text.Pieces

/-!
# Benchmark queries

An engine reads one query a line, so a query is normalised to one line and repeated. `escape` writes
a query for an `echo -e "…"` recipe and `unescape?` undoes it.
-/
namespace EngineTrials.Query
open Text

/-- Blanks at the ends go, and every line feed that is left becomes a space. -/
def normalizeChars (q : List Char) : List Char :=
  (trimBlank q).map fun c => if c = '\n' then ' ' else c

def normalize (q : String) : String :=
  String.ofList (normalizeChars q.toList)

/-- The normalised query on a line of its own, `n` times. -/
def input (q : String) (n : Nat) : String :=
  String.ofList (List.replicate n (normalizeChars q.toList ++ ['\n'])).flatten

/-- Backslash, tab, line feed and carriage return by name, printable ASCII as itself, everything
else by its code point in the shortest of three widths. -/
def escapeChar (c : Char) : List Char :=
  if c = '\\' then ['\\', '\\']
  else if c = '\t' then ['\\', 't']
  else if c = '\n' then ['\\', 'n']
  else if c = '\r' then ['\\', 'r']
  else if 0x20 ≤ c.toNat ∧ c.toNat ≤ 0x7E then [c]
  else if c.toNat ≤ 0xFF then ['\\', 'x'] ++ padded 16 2 c.toNat
  else if c.toNat ≤ 0xFFFF then ['\\', 'u'] ++ padded 16 4 c.toNat
  else ['\\', 'U'] ++ padded 16 8 c.toNat

def escapeChars (q : List Char) : List Char := q.flatMap escapeChar

def escape (q : String) : String := String.ofList (escapeChars q.toList)

/-- The character whose code point these hexadecimal digits give. -/
def scalar? (digits : List Char) : Option Char := do
  let n ← foldDigits? 16 0 digits
  if h : n.isValidChar then some (Char.ofNatAux n h) else none

/-- Reads an escaped text back, from left to right; a backslash must open an escape. -/
def unescape? : List Char → Option (List Char)
  | [] => some []
  | '\\' :: '\\' :: rest => (unescape? rest).map ('\\' :: ·)
  | '\\' :: 't' :: rest => (unescape? rest).map ('\t' :: ·)
  | '\\' :: 'n' :: rest => (unescape? rest).map ('\n' :: ·)
  | '\\' :: 'r' :: rest => (unescape? rest).map ('\r' :: ·)
  | '\\' :: 'x' :: a :: b :: rest => do
    let c ← scalar? [a, b]
    let cs ← unescape? rest
    return c :: cs
  | '\\' :: 'u' :: a :: b :: c :: d :: rest => do
    let c ← scalar? [a, b, c, d]
    let cs ← unescape? rest
    return c :: cs
  | '\\' :: 'U' :: a :: b :: c :: d :: e :: f :: g :: h :: rest => do
    let c ← scalar? [a, b, c, d, e, f, g, h]
    let cs ← unescape? rest
    return c :: cs
  | c :: rest => if c = '\\' then none else (unescape? rest).map (c :: ·)

end EngineTrials.Query
