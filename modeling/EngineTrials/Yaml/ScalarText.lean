import EngineTrials.Text.Digits
import EngineTrials.Yaml.Cursor
import EngineTrials.Yaml.Token

/-!
# Scalars in a text

Where a scalar ends and which text it stands for, in each of the styles: plain, in quotes, and as a
block. Line breaks within plain and quoted scalars are folded: a single one stands for a space, and
of several the first is dropped. A reader gives nothing where the scalar is not well formed.
-/
namespace EngineTrials.Yaml
open Text

/-- What lies between two words of a scalar: gaps on one line, or line breaks. -/
structure Between where
  gaps : List Char := []
  broken : Bool := false
  first : List Char := []
  more : List Char := []

/-- The first line break is a space if it is the only one, and otherwise dropped; a separator of
lines or paragraphs is kept. -/
def fold (first more : List Char) : List Char :=
  if first = ['\n'] then (if more.isEmpty then [' '] else more) else first ++ more

namespace Between

def text (b : Between) : List Char :=
  if b.broken then fold b.first b.more else b.gaps

def addBreak (b : Between) (br : List Char) : Between :=
  if b.broken then { b with more := b.more ++ br } else { broken := true, first := br }

/-- Passes gaps and line breaks. At the start of a line a tab may not stand left of column
`indentation`. -/
def pass (indentation : Nat) : Nat → Between → Cursor → Option (Between × Cursor)
  | 0, b, c => some (b, c)
  | fuel + 1, b, c =>
    match c.rest with
    | [] => some (b, c)
    | ch :: _ =>
      if isGap ch then
        if b.broken then
          if ch = '\t' ∧ c.column < indentation then none
          else pass indentation fuel b (c.skip 1)
        else pass indentation fuel { b with gaps := b.gaps ++ [ch] } (c.skip 1)
      else if isBreak ch then pass indentation fuel (b.addBreak c.breakText) c.skipBreak
      else some (b, c)

end Between

def isFlowMark (c : Char) : Bool :=
  c == ',' || c == '[' || c == ']' || c == '\x7b' || c == '\x7d'

/-- A word of a plain scalar. It ends at a blank, at a colon before a blank, and within a flow
collection at its marks, which may not follow a colon directly. -/
def plainWord (inFlow : Bool) : List Char → Option (List Char)
  | [] => some []
  | c :: rest =>
    if isGap c || isBreak c then some []
    else if inFlow && c == ':' && rest.head?.any (fun d => isFlowMark d || d == '?') then none
    else if (c == ':' && atBlank rest) || (inFlow && isFlowMark c) then some []
    else (plainWord inFlow rest).map (c :: ·)

/-- A plain scalar that `done` and `between` begin. Its further lines stand at column `indentation`
or to the right of it. The flag says whether line breaks follow the last word. -/
def plainWords (inFlow : Bool) (indentation : Nat) :
    Nat → List Char → Between → Cursor → Option (List Char × Bool × Cursor)
  | 0, done, b, c => some (done, b.broken, c)
  | fuel + 1, done, b, c =>
    if c.atMark || c.at? '#' then some (done, b.broken, c)
    else do
      let word ← plainWord inFlow c.rest
      if word.isEmpty then return (done, b.broken, c)
      let done := done ++ b.text ++ word
      let c := c.skip word.length
      if !c.rest.isEmpty && atBlank c.rest then
        let (b, c) ← Between.pass indentation (c.rest.length + 1) {} c
        if !inFlow && c.column < indentation then return (done, b.broken, c)
        plainWords inFlow indentation fuel done b c
      else return (done, false, c)

def plainScalar (inFlow : Bool) (indentation : Nat) (c : Cursor) :
    Option (List Char × Bool × Cursor) :=
  plainWords inFlow indentation (c.rest.length + 1) [] {} c

/-- What a letter after a backslash stands for: a character, or as many hexadecimal digits. -/
def escape? (c : Char) : Option (Char ⊕ Nat) :=
  if c = '0' then some (.inl '\x00')
  else if c = 'a' then some (.inl '\x07')
  else if c = 'b' then some (.inl '\x08')
  else if c = 't' ∨ c = '\t' then some (.inl '\t')
  else if c = 'n' then some (.inl '\n')
  else if c = 'v' then some (.inl '\x0b')
  else if c = 'f' then some (.inl '\x0c')
  else if c = 'r' then some (.inl '\r')
  else if c = 'e' then some (.inl '\x1b')
  else if c = ' ' ∨ c = '"' ∨ c = '/' ∨ c = '\\' then some (.inl c)
  else if c = 'N' then some (.inl '\u0085')
  else if c = '_' then some (.inl '\u00a0')
  else if c = 'L' then some (.inl '\u2028')
  else if c = 'P' then some (.inl '\u2029')
  else if c = 'x' then some (.inr 2)
  else if c = 'u' then some (.inr 4)
  else if c = 'U' then some (.inr 8)
  else none

/-- The character with a code point, which surrogates are not. -/
def charOf? (n : Nat) : Option Char :=
  if h : n.isValidChar then some (Char.ofNatAux n h) else none

/-- A piece of a quoted scalar without gaps and line breaks. -/
structure Chunk where
  text : List Char := []
  /-- How many characters it is written with. -/
  width : Nat := 0
  /-- Whether it ends at a line break that a backslash takes away. -/
  joined : Bool := false

namespace Chunk

def add (ch : Char) (width : Nat) (c : Chunk) : Chunk :=
  { c with text := ch :: c.text, width := c.width + width }

/-- Reads up to a quote, a gap, a line break or the end. The bound is the number of characters. -/
def read (quote : Char) : Nat → List Char → Option Chunk
  | 0, _ => some {}
  | _, [] => some {}
  | fuel + 1, c :: rest =>
    if isGap c || isBreak c then some {}
    else if c = quote then
      if quote = '\'' ∧ rest.head? = some '\'' then (read quote fuel (rest.drop 1)).map (add '\'' 2)
      else some {}
    else if quote = '"' ∧ c = '\\' then
      match rest with
      | [] => none
      | d :: rest =>
        if isBreak d then some { joined := true }
        else match escape? d with
          | none => none
          | some (.inl ch) => (read quote fuel rest).map (add ch 2)
          | some (.inr digits) => do
            let hex := rest.take digits
            if hex.length < digits then none
            let ch ← (natural? 16 hex).bind charOf?
            (read quote fuel (rest.drop digits)).map (add ch (2 + digits))
    else (read quote fuel rest).map (add c 1)

end Chunk

/-- The rest of a quoted scalar, up to and with its closing quote. -/
def quotedRest (quote : Char) : Nat → List Char → Cursor → Option (List Char × Cursor)
  | 0, _, _ => none
  | fuel + 1, done, c => do
    if c.atMark || c.rest.isEmpty then none
    let chunk ← Chunk.read quote (c.rest.length + 1) c.rest
    let done := done ++ chunk.text
    let c := c.skip chunk.width
    let (b, c) := if chunk.joined then ({ broken := true : Between }, (c.skip 1).skipBreak)
      else ({}, c)
    if c.at? quote then return (done, c.skip 1)
    let (b, c) ← Between.pass 0 (c.rest.length + 1) b c
    quotedRest quote fuel (done ++ b.text) c

/-- A scalar in quotes, from its opening quote on. -/
def quotedScalar (quote : Char) (c : Cursor) : Option (List Char × Cursor) :=
  quotedRest quote (c.rest.length + 1) [] (c.skip 1)

/-- What becomes of the line breaks at the end of a block: of one of them, and of the others. -/
inductive Chomping
  | strip
  | clip
  | keep

def chomping? (c : Cursor) : Option Chomping :=
  if c.at? '+' then some .keep else if c.at? '-' then some .strip else none

/-- An indentation given as a digit from one to nine; zero is refused. -/
def indentationDigit? (c : Cursor) : Option (Option Nat) :=
  match c.rest.head? with
  | some d => if isDigit d then (if d = '0' then none else some (digit? 10 d)) else some none
  | none => some none

/-- The signs after the mark of a block, in either order. -/
def blockSigns (c : Cursor) : Option (Chomping × Option Nat × Cursor) := do
  match chomping? c with
  | some chomping =>
    let c := c.skip 1
    match ← indentationDigit? c with
    | some n => return (chomping, some n, c.skip 1)
    | none => return (chomping, none, c)
  | none =>
    match ← indentationDigit? c with
    | some n =>
      let c := c.skip 1
      match chomping? c with
      | some chomping => return (chomping, some n, c.skip 1)
      | none => return (.clip, some n, c)
    | none => return (.clip, none, c)

/-- Passes empty lines and the indentation of the next one, which is at most `indentation` if that
is known. Gives the breaks and the widest indentation met; a tab may not indent. -/
def blockBreaks (indentation : Option Nat) : Nat → List Char → Nat → Cursor →
    Option (List Char × Nat × Cursor)
  | 0, breaks, widest, c => some (breaks, widest, c)
  | fuel + 1, breaks, widest, c =>
    let spaces := (c.rest.takeWhile (· == ' ')).length
    let c := c.skip (match indentation with
      | some n => min spaces (n - c.column)
      | none => spaces)
    let widest := max widest c.column
    if indentation.all (c.column < ·) && c.at? '\t' then none
    else if c.atBreak then
      blockBreaks indentation fuel (breaks ++ c.breakText) widest c.skipBreak
    else some (breaks, widest, c)

/-- The lines of a block so far. -/
structure Block where
  text : List Char := []
  /-- The break that ended the last line. -/
  lineEnd : List Char := []
  /-- The empty lines after it. -/
  empty : List Char := []
  /-- Whether the last line began with a gap. -/
  indented : Bool := false

namespace Block

/-- Adds a line; in a folded block the break between two lines that are not indented is folded. -/
def add (folded : Bool) (line : List Char) (b : Block) : Block :=
  let indented := line.head?.any isGap
  let between :=
    if folded && b.lineEnd == ['\n'] && !b.indented && !indented then
      if b.empty.isEmpty then [' '] else b.empty
    else b.lineEnd ++ b.empty
  { text := b.text ++ between ++ line, indented }

def finish (b : Block) : Chomping → List Char
  | .strip => b.text
  | .clip => b.text ++ b.lineEnd
  | .keep => b.text ++ b.lineEnd ++ b.empty

end Block

def blockLines (folded : Bool) (indentation : Nat) : Nat → Block → Cursor → Option (Block × Cursor)
  | 0, b, c => some (b, c)
  | fuel + 1, b, c =>
    if c.column = indentation ∧ !c.rest.isEmpty then do
      let line := c.rest.takeWhile (!isBreak ·)
      let b := b.add folded line
      let c := c.skip line.length
      let lineEnd := c.breakText
      let c := c.skipBreak
      let (empty, _, c) ← blockBreaks (some indentation) (c.rest.length + 1) [] 0 c
      blockLines folded indentation fuel { b with lineEnd, empty } c
    else some (b, c)

/-- A block scalar, from its mark on, inside a collection whose entries must stand right of it at
`least` or further. Without a digit the first line that is not empty gives the indentation. -/
def blockScalar (folded : Bool) (least : Nat) (c : Cursor) : Option (List Char × Cursor) := do
  let (chomping, digit, c) ← blockSigns (c.skip 1)
  let c := c.skipGaps.skipComment
  if !atLineEnd c.rest then none
  let c := c.skipBreak
  let given := digit.map (least - 1 + ·)
  let (empty, widest, c) ← blockBreaks given (c.rest.length + 1) [] 0 c
  let indentation := given.getD (max widest (max least 1))
  let (b, c) ← blockLines folded indentation (c.rest.length + 1) { empty } c
  return (b.finish chomping, c)

end EngineTrials.Yaml
