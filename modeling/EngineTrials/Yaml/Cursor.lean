import EngineTrials.Text.Utf8

/-!
# Places in a YAML text

The character classes of YAML and a `Cursor`: what is left of a text, with the number of characters
passed and the line and column reached. A `Source` is the part of a text that can be read at all.
-/
namespace EngineTrials.Yaml
open Text

/-- The characters that may stand in a text. -/
def isReadable (c : Char) : Bool :=
  let n := c.toNat
  n == 0x09 || n == 0x0A || n == 0x0D || (0x20 ≤ n && n ≤ 0x7E) || n == 0x85 ||
    (0xA0 ≤ n && n ≤ 0xD7FF) || (0xE000 ≤ n && n ≤ 0xFFFD) || 0x10000 ≤ n

/-- A space or a tab. -/
def isGap (c : Char) : Bool := c == ' ' || c == '\t'

def isBreak (c : Char) : Bool :=
  c == '\n' || c == '\r' || c == '\u0085' || c == '\u2028' || c == '\u2029'

/-- The characters of the names of anchors, tag handles and directives. -/
def isNameChar (c : Char) : Bool :=
  ('0' ≤ c && c ≤ '9') || ('a' ≤ c && c ≤ 'z') || ('A' ≤ c && c ≤ 'Z') || c == '_' || c == '-'

/-- Whether a text ends here, or goes on with a gap or a line break. -/
def atBlank (cs : List Char) : Bool :=
  cs.head?.all fun c => isGap c || isBreak c

/-- Whether a text ends here or goes on with a line break. -/
def atLineEnd (cs : List Char) : Bool :=
  cs.head?.all isBreak

/-- Whether a mark of three characters stands here by itself. -/
def startsMark (c : Char) (cs : List Char) : Bool :=
  cs.take 3 == [c, c, c] && atBlank (cs.drop 3)

/-- A text is read in blocks, and a character that is not allowed spoils its whole block. -/
structure Source where
  text : List Char
  /-- Whether an unreadable block follows the text. -/
  spoiled : Bool := false

namespace Source

/-- The bytes of a block. -/
def blockSize : Nat := 16384

/-- Reads on in a block with `room` bytes left; `block` holds its characters in reverse, `before`
those of the blocks before it. -/
def collect (room : Nat) (before block : List Char) (sound : Bool) : List Char → Source
  | [] => if sound then ⟨(block ++ before).reverse, false⟩ else ⟨before.reverse, true⟩
  | c :: rest =>
    let size := c.utf8Size
    if size ≤ room then collect (room - size) before (c :: block) (sound && isReadable c) rest
    else if sound then
      collect (blockSize - size) (block ++ before) [c] (isReadable c) rest
    else ⟨before.reverse, true⟩

def ofText (s : String) : Source :=
  collect blockSize [] [] true s.toList

end Source

structure Cursor where
  rest : List Char
  index : Nat := 0
  line : Nat := 0
  column : Nat := 0
deriving Inhabited

namespace Cursor

/-- Passes characters of one line. -/
def skip (c : Cursor) (n : Nat) : Cursor :=
  ⟨c.rest.drop n, c.index + n, c.line, c.column + n⟩

def skipWhile (c : Cursor) (p : Char → Bool) : Cursor :=
  c.skip (c.rest.takeWhile p).length

def skipGaps (c : Cursor) : Cursor := c.skipWhile isGap

/-- Passes a comment, if one begins here, up to the end of its line. -/
def skipComment (c : Cursor) : Cursor :=
  if c.rest.head? = some '#' then c.skipWhile (!isBreak ·) else c

def at? (c : Cursor) (ch : Char) : Bool := c.rest.head? == some ch

def atBreak (c : Cursor) : Bool := c.rest.head?.any isBreak

/-- Passes a line break, of two characters if it is a carriage return and a line feed. -/
def skipBreak (c : Cursor) : Cursor :=
  match c.rest with
  | '\r' :: '\n' :: rest => ⟨rest, c.index + 2, c.line + 1, 0⟩
  | _ :: rest => ⟨rest, c.index + 1, c.line + 1, 0⟩
  | [] => c

/-- The text a line break stands for: the separators of lines and paragraphs stand for themselves,
all others for a line feed. -/
def breakText (c : Cursor) : List Char :=
  match c.rest with
  | [] => []
  | ch :: _ => if ch = '\u2028' ∨ ch = '\u2029' then [ch] else ['\n']

/-- Whether a document begins or ends on this line by its mark. -/
def atMark (c : Cursor) : Bool :=
  c.column == 0 && (startsMark '-' c.rest || startsMark '.' c.rest)

theorem length_skipBreak_lt {c : Cursor} (h : c.atBreak) :
    c.skipBreak.rest.length < c.rest.length := by
  unfold skipBreak
  split
  · rename_i hc; simp only [hc, List.length_cons]; omega
  · rename_i hc; simp [hc]
  · rename_i hc; simp [atBreak, hc] at h

theorem length_skip_le (c : Cursor) (n : Nat) : (c.skip n).rest.length ≤ c.rest.length := by
  simp [skip]

theorem length_skipComment_le (c : Cursor) : c.skipComment.rest.length ≤ c.rest.length := by
  unfold skipComment
  split
  · exact length_skip_le c _
  · exact Nat.le_refl _

end Cursor

end EngineTrials.Yaml
