import EngineTrials.Unicode.Property
import EngineTrials.Unicode.Script

/-!
# Sets by name

The code points that a name stands for, as in `\p` escapes: a binary property, a general category or
a script, looked up in this order. Case, spaces, hyphens and underscores in names do not count, nor
does an `is` in front.
-/
namespace EngineTrials.Unicode
open Text

/-- Small ASCII letters, without the separators of words; other characters are dropped. -/
def bareName (cs : List Char) : List Char :=
  (cs.filter fun c => c.toNat < 0x80 && c != ' ' && c != '_' && c != '-').map fun c =>
    if 'A' ≤ c ∧ c ≤ 'Z' then Char.ofNat (c.toNat + 32) else c

/-- The form in which names are compared. The category `c` keeps its name under `is`. -/
def canonicalName (cs : List Char) : String :=
  match cs with
  | a :: b :: rest =>
    if (a = 'i' ∨ a = 'I') ∧ (b = 's' ∨ b = 'S') then
      if bareName rest = ['c'] then "isc" else String.ofList (bareName rest)
    else String.ofList (bareName cs)
  | cs => String.ofList (bareName cs)

/-- Long names of the general categories, by their short forms. -/
def categoryNames : List (String × List String) :=
  [("Cc", ["control", "cntrl"]), ("Cf", ["format"]), ("Cn", ["unassigned"]),
   ("Co", ["privateuse"]), ("Ll", ["lowercaseletter"]), ("Lm", ["modifierletter"]),
   ("Lo", ["otherletter"]), ("Lt", ["titlecaseletter"]), ("Lu", ["uppercaseletter"]),
   ("Mc", ["spacingmark"]), ("Me", ["enclosingmark"]), ("Mn", ["nonspacingmark"]),
   ("Nd", ["decimalnumber", "digit"]), ("Nl", ["letternumber"]), ("No", ["othernumber"]),
   ("Pc", ["connectorpunctuation"]), ("Pd", ["dashpunctuation"]), ("Pe", ["closepunctuation"]),
   ("Pf", ["finalpunctuation"]), ("Pi", ["initialpunctuation"]), ("Po", ["otherpunctuation"]),
   ("Ps", ["openpunctuation"]), ("Sc", ["currencysymbol"]), ("Sk", ["modifiersymbol"]),
   ("Sm", ["mathsymbol"]), ("So", ["othersymbol"]), ("Zl", ["lineseparator"]),
   ("Zp", ["paragraphseparator"]), ("Zs", ["spaceseparator"])]

/-- Names of the groups of categories that share an initial. -/
def majorNames : List (Char × List String) :=
  [('C', ["c", "other", "isc"]), ('L', ["l", "letter"]), ('M', ["m", "mark", "combiningmark"]),
   ('N', ["n", "number"]), ('P', ["p", "punctuation", "punct"]), ('S', ["s", "symbol"]),
   ('Z', ["z", "separator"])]

/-- A general category, a group of them, or one of the sets that are looked up with them. -/
def category? (name : String) : Option CodeRanges :=
  match majorNames.find? fun (_, names) => names.contains name with
  | some (initial, _) => some (ofMajorCategory initial)
  | none =>
    match categoryNames.find? fun (short, names) =>
        canonicalName short.toList == name || names.contains name with
    | some (short, _) => some (ofCategories [short])
    | none =>
      if name = "lc" ∨ name = "casedletter" then some (ofCategories ["Lu", "Ll", "Lt"])
      else if name = "any" then some .all
      else if name = "assigned" then some (ofCategories ["Cn"]).complement
      else if name = "ascii" then some (.ofIntervals [(0, 0x7F)])
      else none

/-- The code of a script, from its code or its name. -/
def scriptCode? (name : String) : Option String :=
  if name = "qaac" then some "Copt"
  else if name = "qaai" then some "Zinh"
  else (words scriptNames.toList).findSome? fun entry =>
    match pieces (· == '/') entry with
    | [code, long] =>
      if canonicalName code = name ∨ canonicalName long = name then some (String.ofList code)
      else none
    | _ => none

def script? (name : String) : Option CodeRanges :=
  (scriptCode? name).map fun code => scripts.labelled (· == code)

def property? (name : String) : Option CodeRanges :=
  if name = "wspace" then some Property.whiteSpace.members
  else (Property.all.find? fun p => canonicalName p.name.toList == name ||
    canonicalName p.shortName.toList == name).map Property.members

/-- What a name stands for by itself. -/
def named? (cs : List Char) : Option CodeRanges :=
  let name := canonicalName cs
  (property? name).or ((category? name).or (script? name))

/-- What a value of a property stands for. -/
def valued? (property value : List Char) : Option CodeRanges :=
  let property := canonicalName property
  if property = "gc" ∨ property = "generalcategory" then category? (canonicalName value)
  else if property = "sc" ∨ property = "script" then script? (canonicalName value)
  else if property = "scx" ∨ property = "scriptextensions" then
    (scriptCode? (canonicalName value)).map usedBy
  else none

end EngineTrials.Unicode
