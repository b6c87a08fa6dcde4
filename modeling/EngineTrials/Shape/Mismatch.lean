import EngineTrials.Number.Shortest
import EngineTrials.Text.Pieces
import EngineTrials.Text.Quoted

/-!
# Data of the wrong shape

What a reader of structured data may meet instead of what it wants, and the message that says so.
A mismatch is found at a place, the keys on the way to it from the outside in.
-/
namespace EngineTrials.Shape
open Text

/-- What is found, as far as a message names it. -/
inductive Found
  | string (text : String)
  | integer (value : Int)
  /-- An integer that needs more than 64 bits. -/
  | wide (signed : Bool) (value : Int)
  | float (value : Binary64)
  | boolean (value : Bool)
  | unit
  | sequence
  | map

inductive Mismatch
  | missingField (name : String)
  | duplicateField (name : String)
  | unknownField (name : String) (known : List String)
  | unknownVariant (name : String) (known : List String)
  /-- The key as a message shows it. -/
  | duplicateKey (shown : String)
  | wrongType (found : Found) (wanted : String)
  | wrongValue (found : Found) (wanted : String)

/-- A float in a message: never an exponent, always a point. -/
def floatText (x : Binary64) : String :=
  match x with
  | .finite _ _ _ => if x.plain.toList.contains '.' then x.plain else x.plain ++ ".0"
  | x => x.plain

def ticked (s : String) : String := "`" ++ s ++ "`"

namespace Found

def text : Found → String
  | string s => "string " ++ Quoted.quote s
  | integer n => "integer " ++ ticked (decimal n)
  | wide signed n =>
    "integer " ++ ticked (decimal n) ++ " as " ++ (if signed then "i128" else "u128")
  | float x => "floating point " ++ ticked (floatText x)
  | boolean b => "boolean " ++ ticked (if b then "true" else "false")
  | unit => "unit value"
  | sequence => "sequence"
  | map => "map"

end Found

def oneOf (known : List String) : String :=
  "expected one of " ++ join ", " (known.map ticked)

namespace Mismatch

def message : Mismatch → String
  | missingField name => "missing field " ++ ticked name
  | duplicateField name => "duplicate field " ++ ticked name
  | unknownField name known => "unknown field " ++ ticked name ++ ", " ++ oneOf known
  | unknownVariant name known => "unknown variant " ++ ticked name ++ ", " ++ oneOf known
  | duplicateKey shown => "duplicate key " ++ shown
  | wrongType found wanted => "invalid type: " ++ found.text ++ ", expected " ++ wanted
  | wrongValue found wanted => "invalid value: " ++ found.text ++ ", expected " ++ wanted

end Mismatch

/-- The keys that lead to a place, as a message begins with them. -/
def placeText (place : List String) : String :=
  if place.isEmpty then "" else join "." place ++ ": "

end EngineTrials.Shape
