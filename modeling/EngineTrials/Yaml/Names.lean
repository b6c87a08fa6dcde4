import EngineTrials.Text.Digits
import EngineTrials.Yaml.Cursor
import EngineTrials.Yaml.Token

/-!
# Names in a YAML text

Anchors, references, tags and directives: the tokens that hold names. A reader gives nothing where
the name is not well formed.
-/
namespace EngineTrials.Yaml
open Text

/-- The name of an anchor or a reference, after its mark. -/
def anchorName (c : Cursor) : Option (List Char × Cursor) :=
  let name := c.rest.takeWhile isNameChar
  let c := c.skip name.length
  let bounded := atBlank c.rest ||
    c.rest.head?.any (['?', ':', ',', ']', '\x7d', '%', '@', '`'].contains ·)
  if name.isEmpty || !bounded then none else some (name, c)

/-- The characters of a tag; flow marks belong to it only between angle brackets. -/
def isTagChar (verbatim : Bool) (c : Char) : Bool :=
  isNameChar c ||
    [';', '/', '?', ':', '@', '&', '=', '+', '$', '.', '!', '~', '*', '\'', '(', ')'].contains c ||
    (verbatim && (c == ',' || c == '[' || c == ']'))

/-- The number of bytes of a character by its first byte. -/
def leadWidth? (byte : Nat) : Option Nat :=
  if byte < 0x80 then some 1
  else if 0xC0 ≤ byte ∧ byte < 0xE0 then some 2
  else if 0xE0 ≤ byte ∧ byte < 0xF0 then some 3
  else if 0xF0 ≤ byte ∧ byte < 0xF8 then some 4
  else none

/-- A byte written as a percent sign and two hexadecimal digits. -/
def escapedByte : List Char → Option Nat
  | '%' :: a :: b :: _ => natural? 16 [a, b]
  | _ => none

/-- The characters of a tag from here on, as bytes, and how many they are. Escaped bytes come in
runs as long as their first byte says; `pending` is what is left of a run. -/
def tagBytes (verbatim : Bool) : Nat → Nat → List Char → Option (TagText × Nat)
  | 0, _, _ => none
  | fuel + 1, 0, cs =>
    match cs with
    | [] => some ([], 0)
    | c :: rest =>
      if c = '%' then do
        let byte ← escapedByte cs
        let width ← leadWidth? byte
        let (bytes, n) ← tagBytes verbatim fuel (width - 1) (cs.drop 3)
        return (byte.toUInt8 :: bytes, n + 3)
      else if isTagChar verbatim c then do
        let (bytes, n) ← tagBytes verbatim fuel 0 rest
        return (Utf8.encode [c] ++ bytes, n + 1)
      else some ([], 0)
  | fuel + 1, pending + 1, cs => do
    let byte ← escapedByte cs
    if leadWidth? byte ≠ none ∨ 0xC0 ≤ byte then none
    let (bytes, n) ← tagBytes verbatim fuel pending (cs.drop 3)
    return (byte.toUInt8 :: bytes, n + 3)

/-- A tag has no bytes from the first zero on. -/
def untilZero (t : TagText) : TagText := t.takeWhile (· ≠ 0)

def tagText (verbatim : Bool) (c : Cursor) : Option (TagText × Nat × Cursor) := do
  let (bytes, width) ← tagBytes verbatim (c.rest.length + 1) 0 c.rest
  return (bytes, width, c.skip width)

/-- A handle: an exclamation mark, a name, and perhaps another exclamation mark. -/
def tagHandle (c : Cursor) : Option (List Char × Cursor) :=
  match c.rest with
  | '!' :: rest =>
    let name := rest.takeWhile isNameChar
    let c := c.skip (1 + name.length)
    if c.at? '!' then some ('!' :: (name ++ ['!']), c.skip 1) else some ('!' :: name, c)
  | _ => none

/-- A tag, from its exclamation mark on. A name that no second mark ends belongs to the suffix, and
a single mark alone is a tag of its own. -/
def tag (inFlow : Bool) (c : Cursor) : Option (Token × Cursor) := do
  let (token, c) ←
    if c.rest.drop 1 |>.head? |> (· == some '<') then do
      let (bytes, width, c) ← tagText true (c.skip 2)
      if width = 0 ∨ !c.at? '>' then none
      pure (Token.tag [] (untilZero bytes), c.skip 1)
    else do
      let (handle, c) ← tagHandle c
      let (bytes, width, c) ← tagText false c
      if 1 < handle.length ∧ handle.getLast? = some '!' then
        if width = 0 then none
        pure (Token.tag (Utf8.encode handle) (untilZero bytes), c)
      else
        let suffix := untilZero (Utf8.encode (handle.drop 1) ++ bytes)
        if suffix.isEmpty then pure (Token.tag [] (Utf8.encode ['!']), c)
        else pure (Token.tag (Utf8.encode ['!']) suffix, c)
  if atBlank c.rest || (inFlow && c.at? ',') then return (token, c) else none

/-- A part of a version number, of at most nine digits. -/
def versionNumber (c : Cursor) : Option (Nat × Cursor) := do
  let digits := c.rest.takeWhile isDigit
  if 9 < digits.length then none
  return (← natural? 10 digits, c.skip digits.length)

/-- A directive, from its percent sign on, to the end of its line. -/
def directive (c : Cursor) : Option (Token × Cursor) := do
  let c := c.skip 1
  let name := c.rest.takeWhile isNameChar
  let c := c.skip name.length
  if name.isEmpty || !atBlank c.rest then none
  let (token, c) ←
    if name = ['Y', 'A', 'M', 'L'] then do
      let (major, c) ← versionNumber c.skipGaps
      if !c.at? '.' then none
      let (minor, c) ← versionNumber (c.skip 1)
      pure (Token.version major minor, c)
    else if name = ['T', 'A', 'G'] then do
      let (handle, c) ← tagHandle c.skipGaps
      if (handle.length = 1 ∨ handle.getLast? = some '!') ∧ c.rest.head?.any isGap then
        let (bytes, width, c) ← tagText true c.skipGaps
        if width = 0 ∨ !atBlank c.rest then none
        pure (Token.tagHandle (Utf8.encode handle) (untilZero bytes), c)
      else none
    else none
  let c := c.skipGaps.skipComment
  if atLineEnd c.rest then return (token, c.skipBreak) else none

end EngineTrials.Yaml
