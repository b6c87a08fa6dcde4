import EngineTrials.Text.Digits
import EngineTrials.Unicode.Graphic

/-!
# Quoted texts

`quote` writes a text between double quotes so that it can be read back: `"` and `\` are escaped,
the control characters NUL, tab, line feed and carriage return have short forms, and every other
character that does not show is written as its code point, `\u` and hexadecimal digits in braces.
`quoteList` writes a list of texts.
-/
namespace EngineTrials.Text.Quoted
open Unicode

/-- A code point between braces, after the letter that announces it. -/
def codePoint (c : Char) : List Char :=
  ['\\', 'u', '\x7b'] ++ numeral 16 c.toNat ++ ['\x7d']

/-- One character of a quoted text; `hidden` says which are written as code points. -/
def escapeWith (hidden : Char → Bool) (c : Char) : List Char :=
  if c = '\x00' then ['\\', '0']
  else if c = '\t' then ['\\', 't']
  else if c = '\r' then ['\\', 'r']
  else if c = '\n' then ['\\', 'n']
  else if c = '"' then ['\\', '"']
  else if c = '\\' then ['\\', '\\']
  else if hidden c then codePoint c
  else [c]

def quoteWith (hidden : Char → Bool) (cs : List Char) : List Char :=
  ['"'] ++ cs.flatMap (escapeWith hidden) ++ ['"']

/-- A text in quotes. -/
def quote (s : String) : String :=
  String.ofList (quoteWith isHidden s.toList)

/-- Texts in quotes between brackets, separated by a comma and a space. -/
def quoteListWith (hidden : Char → Bool) (items : List (List Char)) : List Char :=
  ['['] ++ glue [',', ' '] (items.map (quoteWith hidden)) ++ [']']

def quoteList (items : List String) : String :=
  String.ofList (quoteListWith isHidden (items.map String.toList))

end EngineTrials.Text.Quoted
