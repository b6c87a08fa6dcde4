import EngineTrials.Number.Reading
import EngineTrials.Number.Word
import EngineTrials.Shape.Mismatch
import EngineTrials.Text.Utf8
import EngineTrials.Yaml.Node

/-!
# What scalars mean

A plain scalar can denote null, a boolean, an integer or a float, and else denotes its text; quoted
scalars and blocks denote their text. Tags of the core types insist on one kind, and a tag of one's
own changes nothing about a plain scalar.
-/
namespace EngineTrials.Yaml
open Text Shape

def nullNames : List String := ["null", "Null", "NULL", "~"]

def boolean? (s : String) : Option Bool :=
  if ["true", "True", "TRUE"].contains s then some true
  else if ["false", "False", "FALSE"].contains s then some false
  else none

/-- Digits that a zero begins. They are no number. -/
def isZeroFilled (cs : List Char) : Bool :=
  1 < cs.length && cs.head? == some '0' && cs.all isDigit

/-- A numeral without sign: decimal, or in the radix that its first two characters give. -/
def magnitude? (cs : List Char) : Option Nat :=
  match cs with
  | '0' :: 'x' :: digits => natural? 16 digits
  | '0' :: 'o' :: digits => natural? 8 digits
  | '0' :: 'b' :: digits => natural? 2 digits
  | cs => if isZeroFilled cs then none else natural? 10 cs

/-- A numeral that is not marked as negative. -/
def unsigned? (cs : List Char) : Option Nat :=
  match cs with
  | '+' :: rest => magnitude? rest
  | cs => magnitude? cs

def integer? (cs : List Char) : Option Int :=
  match cs with
  | '-' :: rest => (magnitude? rest).map fun n => -(n : Int)
  | cs => (unsigned? cs).map Int.ofNat

/-- The integers that need at most 64 bits, with a sign if they are negative. -/
def fitsWord (n : Int) : Bool := fitsSigned 64 n || fitsUnsigned 64 n

/-- An integer as a message names it; there is none beyond 128 bits. -/
def foundInteger? (cs : List Char) : Option Found := do
  let n ← integer? cs
  if fitsWord n then return .integer n
  else if fitsUnsigned 128 n then return .wide false n
  else if fitsSigned 128 n then return .wide true n
  else none

/-- A finite decimal, or an infinity or no number by a name that begins with a point. -/
def float? (cs : List Char) : Option Binary64 :=
  let s := String.ofList cs
  let unsigned := match cs with
    | '+' :: rest => rest
    | cs => cs
  if cs.head? = some '+' ∧ (unsigned.head? = some '+' ∨ unsigned.head? = some '-') then none
  else if [".inf", ".Inf", ".INF"].contains (String.ofList unsigned) then some (.infinite false)
  else if ["-.inf", "-.Inf", "-.INF"].contains s then some (.infinite true)
  else if [".nan", ".NaN", ".NAN"].contains s then some .nan
  else match Binary64.read? unsigned with
    | some (.finite negative m e) => some (.finite negative m e)
    | _ => none

/-- What a plain scalar without a tag denotes. -/
def foundPlain (s : String) : Found :=
  let cs := s.toList
  let unsigned := match cs with
    | '+' :: rest | '-' :: rest => rest
    | cs => cs
  if s = "" ∨ nullNames.contains s then .unit
  else match boolean? s with
    | some b => .boolean b
    | none =>
      match foundInteger? cs with
      | some found => found
      | none =>
        if isZeroFilled unsigned then .string s
        else ((float? cs).map Found.float).getD (.string s)

def coreTag (name : String) : TagText := Utf8.encode ("tag:yaml.org,2002:" ++ name).toList

def booleanTag : TagText := coreTag "bool"

def integerTag : TagText := coreTag "int"

def floatTag : TagText := coreTag "float"

def nullTag : TagText := coreTag "null"

/-- The name of a tag of one's own, without its exclamation mark unless it is nothing else. -/
def ownTag? (t : TagText) : Option String :=
  match t with
  | 33 :: rest => Utf8.text? (if rest.isEmpty then t else rest)
  | _ => none

/-- The message about a scalar that is not `wanted`. A tag that the text does not live up to is the
first thing wrong. -/
def scalarMismatch (p : Properties) (style : Style) (s : String) (wanted : String) : Mismatch :=
  let insisting (found : Option Found) (kind : String) : Mismatch :=
    match found with
    | some found => .wrongType found wanted
    | none => .wrongValue (.string s) kind
  match p.tag with
  | none => .wrongType (if style = .plain then foundPlain s else .string s) wanted
  | some tag =>
    if tag = booleanTag then insisting ((boolean? s).map .boolean) "a boolean"
    else if tag = integerTag then insisting (foundInteger? s.toList) "an integer"
    else if tag = floatTag then insisting ((float? s.toList).map .float) "a float"
    else if tag = nullTag then insisting (if nullNames.contains s then some .unit else none) "null"
    else if tag.head? = some 33 ∧ style = .plain then .wrongType (foundPlain s) wanted
    else .wrongType (.string s) wanted

/-- Whether a scalar can denote something other than its text: a plain one can, and a literal block
that a tag of a core type marks. -/
def isTyped (p : Properties) (style : Style) (core : TagText) : Bool :=
  style == .plain || (style == .literal && p.tag == some core)

end EngineTrials.Yaml
