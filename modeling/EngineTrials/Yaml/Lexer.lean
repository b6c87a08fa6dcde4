import EngineTrials.Yaml.Names
import EngineTrials.Yaml.ScalarText

/-!
# Tokens from a text

A key of a mapping is known as such only when its colon is met, after its own tokens. A `Lexer`
therefore remembers where a key may have begun and holds back the tokens from there on. Within one
line and 1024 characters a colon turns the candidate into a key; a candidate at the indentation of
its mapping has to become one.

`tokens` gives the tokens of a text up to the first place where it is not well formed.
-/
namespace EngineTrials.Yaml

/-- A place where a key may have begun. -/
structure Candidate where
  /-- The number of its first token. -/
  number : Nat
  index : Nat
  line : Nat
  column : Nat
  required : Bool

structure Lexer where
  cursor : Cursor
  /-- The text goes on, but not readably. -/
  spoiled : Bool
  /-- The columns of the open block collections, innermost first. -/
  indents : List Nat := []
  /-- The candidate in the innermost flow collection, or outside of all. -/
  candidate : Option Candidate := none
  /-- Those of the collections around it; there are as many as open flow collections. -/
  outer : List (Option Candidate) := []
  keyAllowed : Bool := true
  /-- Tokens read and not delivered. -/
  queue : List Token := []
  delivered : Nat := 0
  ended : Bool := false

namespace Lexer

def inFlow (x : Lexer) : Bool := !x.outer.isEmpty

/-- The least column at which something may stand inside the innermost block collection. -/
def leastColumn (x : Lexer) : Nat := x.indents.head?.elim 0 (· + 1)

def push (t : Token) (x : Lexer) : Lexer := { x with queue := x.queue ++ [t] }

def insertAt {α : Type} (n : Nat) (a : α) (xs : List α) : List α :=
  xs.take n ++ a :: xs.drop n

/-- Puts a token before the one with that number. -/
def insert (number : Nat) (t : Token) (x : Lexer) : Lexer :=
  { x with queue := insertAt (number - x.delivered) t x.queue }

def skip (n : Nat) (x : Lexer) : Lexer := { x with cursor := x.cursor.skip n }

/-- How far apart a key's beginning and its colon may be. -/
def keyReach : Nat := 1024

def Candidate.isStale (at_ : Cursor) (k : Candidate) : Bool :=
  k.line < at_.line || k.index + keyReach < at_.index

/-- A candidate that is out of reach is none any more, unless it was required. -/
def freshen (c : Cursor) : Option Candidate → Option (Option Candidate)
  | some k =>
    if Candidate.isStale c k then (if k.required then none else some none) else some (some k)
  | none => some none

def dropStale (x : Lexer) : Option Lexer := do
  let outer ← x.outer.mapM (freshen x.cursor)
  return { x with candidate := ← freshen x.cursor x.candidate, outer }

/-- Gives the innermost candidate up, which is refused for a required one. -/
def forget (x : Lexer) : Option Lexer :=
  if x.candidate.any (·.required) then none else some { x with candidate := none }

/-- Notes that a key may begin here. -/
def note (x : Lexer) : Option Lexer :=
  if x.keyAllowed then do
    let c := x.cursor
    let required := !x.inFlow && x.indents.head? == some c.column
    let x ← x.forget
    let number := x.delivered + x.queue.length
    return { x with candidate := some ⟨number, c.index, c.line, c.column, required⟩ }
  else some x

/-- Whether the next token may still turn out to stand behind the mark of a key. -/
def isHeld (x : Lexer) : Bool :=
  (x.candidate :: x.outer).any fun k => k.any (·.number == x.delivered)

/-- Begins a block collection at a column, if it is to the right of the innermost one. -/
def indent (column : Nat) (t : Token) (number : Option Nat) (x : Lexer) : Lexer :=
  if x.inFlow ∨ column < x.leastColumn then x
  else
    let x := { x with indents := column :: x.indents }
    match number with
    | some n => x.insert n t
    | none => x.push t

/-- Ends the block collections to the right of a column. -/
def unindent (column : Nat) (x : Lexer) : Lexer :=
  if x.inFlow then x
  else
    let ended := x.indents.takeWhile (column < ·)
    { x with
      indents := x.indents.dropWhile (column < ·)
      queue := x.queue ++ ended.map fun _ => Token.blockEnd }

def unindentAll (x : Lexer) : Lexer :=
  if x.inFlow then x
  else { x with indents := [], queue := x.queue ++ x.indents.map fun _ => Token.blockEnd }

/-- Passes gaps, comments and line breaks. A new line outside of flow collections may begin with a
key; where a key may begin, a tab is no gap. -/
def passBlank (inFlow : Bool) (keyAllowed : Bool) (c : Cursor) : Bool × Cursor :=
  let start := if c.index = 0 ∧ c.at? '\ufeff' then c.skip 1 else c
  let gap (ch : Char) : Bool := ch == ' ' || ((inFlow || !keyAllowed) && ch == '\t')
  let stop := (start.skipWhile gap).skipComment
  if _h : stop.atBreak then passBlank inFlow (keyAllowed || !inFlow) stop.skipBreak
  else (keyAllowed, stop)
termination_by c.rest.length
decreasing_by
  refine Nat.lt_of_lt_of_le (Cursor.length_skipBreak_lt _h) ?_
  refine Nat.le_trans (Cursor.length_skipComment_le _) (Nat.le_trans (Cursor.length_skip_le _ _) ?_)
  split
  · exact Cursor.length_skip_le c 1
  · exact Nat.le_refl _

def endText (x : Lexer) : Option Lexer := do
  let c := x.cursor
  let c : Cursor := if c.column = 0 then c else { c with line := c.line + 1, column := 0 }
  let x ← { x with cursor := c }.unindentAll.forget
  return { x with keyAllowed := false, ended := true }.push .streamEnd

def readDirective (x : Lexer) : Option Lexer := do
  let x ← x.unindentAll.forget
  let (t, c) ← directive x.cursor
  return { x with keyAllowed := false, cursor := c }.push t

def readDocumentMark (t : Token) (x : Lexer) : Option Lexer := do
  let x ← x.unindentAll.forget
  return ({ x with keyAllowed := false }.skip 3).push t

def openFlow (t : Token) (x : Lexer) : Option Lexer := do
  let x ← x.note
  let inner := { x with keyAllowed := true, candidate := none, outer := x.candidate :: x.outer }
  return (inner.skip 1).push t

def closeFlow (t : Token) (x : Lexer) : Option Lexer := do
  let x ← x.forget
  let x := match x.outer with
    | k :: ks => { x with candidate := k, outer := ks }
    | [] => x
  return ({ x with keyAllowed := false }.skip 1).push t

def readFlowEntry (x : Lexer) : Option Lexer := do
  let x ← x.forget
  return ({ x with keyAllowed := true }.skip 1).push .flowEntry

def readBlockEntry (x : Lexer) : Option Lexer := do
  if !x.inFlow && !x.keyAllowed then none
  let x ← (x.indent x.cursor.column .blockSequenceStart none).forget
  return ({ x with keyAllowed := true }.skip 1).push .blockEntry

def readKey (x : Lexer) : Option Lexer := do
  if !x.inFlow && !x.keyAllowed then none
  let x ← (x.indent x.cursor.column .blockMappingStart none).forget
  return ({ x with keyAllowed := !x.inFlow }.skip 1).push .key

/-- A colon turns the candidate into a key, and without one belongs to an empty key. -/
def readValue (x : Lexer) : Option Lexer :=
  match x.candidate with
  | some k =>
    let x := (x.insert k.number .key).indent k.column .blockMappingStart (some k.number)
    some (({ x with candidate := none, keyAllowed := false }.skip 1).push .value)
  | none =>
    if !x.inFlow && !x.keyAllowed then none
    else
      let x := x.indent x.cursor.column .blockMappingStart none
      some (({ x with keyAllowed := !x.inFlow }.skip 1).push .value)

/-- Goes on behind a token, unless the text is unreadable there. -/
def accept (t : Token) (c : Cursor) (x : Lexer) : Option Lexer :=
  if x.spoiled && c.rest.isEmpty then none else some ({ x with cursor := c }.push t)

def readAnchor (make : List Char → Token) (x : Lexer) : Option Lexer := do
  let x ← x.note
  let (name, c) ← anchorName (x.cursor.skip 1)
  { x with keyAllowed := false }.accept (make name) c

def readTag (x : Lexer) : Option Lexer := do
  let x ← x.note
  let (t, c) ← tag x.inFlow x.cursor
  { x with keyAllowed := false }.accept t c

def readBlockScalar (style : Style) (x : Lexer) : Option Lexer := do
  let x ← x.forget
  let (text, c) ← blockScalar (style == .folded) x.leastColumn x.cursor
  { x with keyAllowed := true }.accept (.scalar text style) c

def readQuotedScalar (quote : Char) (style : Style) (x : Lexer) : Option Lexer := do
  let x ← x.note
  let (text, c) ← quotedScalar quote x.cursor
  { x with keyAllowed := false }.accept (.scalar text style) c

/-- After a plain scalar that ends with line breaks a key may begin. -/
def readPlainScalar (x : Lexer) : Option Lexer := do
  let x ← x.note
  let (text, broken, c) ← plainScalar x.inFlow x.leastColumn x.cursor
  { x with keyAllowed := broken }.accept (.scalar text .plain) c

/-- The characters a plain scalar does not begin with. -/
def isIndicator (c : Char) : Bool :=
  ['-', '?', ':', ',', '[', ']', '\x7b', '\x7d', '#', '&', '*', '!', '|', '>', '\'', '"', '%', '@',
    '`'].contains c

/-- Reads one token, with those for the block collections that end or begin before it. -/
def read (x : Lexer) : Option Lexer := do
  let (keyAllowed, cursor) := passBlank x.inFlow x.keyAllowed x.cursor
  let x ← { x with keyAllowed, cursor }.dropStale
  let column := x.cursor.column
  let x := x.unindent column
  let cs := x.cursor.rest
  if x.spoiled && (cs.drop 3).isEmpty then none
  match cs with
  | [] => x.endText
  | c :: rest =>
    let alone := atBlank rest
    if column = 0 ∧ c = '%' then x.readDirective
    else if column = 0 ∧ startsMark '-' cs then x.readDocumentMark .documentStart
    else if column = 0 ∧ startsMark '.' cs then x.readDocumentMark .documentEnd
    else if c = '[' then x.openFlow .flowSequenceStart
    else if c = '\x7b' then x.openFlow .flowMappingStart
    else if c = ']' then x.closeFlow .flowSequenceEnd
    else if c = '\x7d' then x.closeFlow .flowMappingEnd
    else if c = ',' then x.readFlowEntry
    else if c = '-' ∧ alone then x.readBlockEntry
    else if c = '?' ∧ (x.inFlow ∨ alone) then x.readKey
    else if c = ':' ∧ (x.inFlow ∨ alone) then x.readValue
    else if c = '*' then x.readAnchor .reference
    else if c = '&' then x.readAnchor .anchor
    else if c = '!' then x.readTag
    else if c = '|' ∧ !x.inFlow then x.readBlockScalar .literal
    else if c = '>' ∧ !x.inFlow then x.readBlockScalar .folded
    else if c = '\'' then x.readQuotedScalar c .singleQuoted
    else if c = '"' then x.readQuotedScalar c .doubleQuoted
    else if c ≠ '\t' ∧ !isIndicator c then x.readPlainScalar
    else if c = '-' ∧ !rest.head?.any isGap then x.readPlainScalar
    else if !x.inFlow ∧ (c = '?' ∨ c = ':') ∧ !alone then x.readPlainScalar
    else none

/-- Delivers tokens that are not held back, reading on where none is left. -/
def run : Nat → Lexer → List Token
  | 0, _ => []
  | fuel + 1, x =>
    match x.queue with
    | [] => if x.ended then [] else x.read.elim [] (run fuel)
    | t :: queue =>
      match x.dropStale with
      | none => []
      | some x =>
        if x.isHeld then x.read.elim [] (run fuel)
        else t :: run fuel { x with queue, delivered := x.delivered + 1 }

end Lexer

/-- The tokens of a text. They end with `streamEnd` if the text is well formed, and before the first
fault otherwise. Each step either reads a character or delivers a token, and a character is the
reason for at most four tokens. -/
def tokens (source : Source) : List Token :=
  Lexer.run (5 * source.text.length + 16)
    { cursor := ⟨source.text, 0, 0, 0⟩, spoiled := source.spoiled }

end EngineTrials.Yaml
