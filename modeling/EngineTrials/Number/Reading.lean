import EngineTrials.Number.Binary64
import EngineTrials.Text.Digits

/-!
# Reading decimals

`read?` accepts an optional sign followed by `inf`, `infinity` or `nan` in any case, or by digits
with an optional point on either side of which there may be none, but not on both, and an optional
exponent. It accepts nothing else.
-/
namespace EngineTrials.Binary64
open Text

def lowerAscii (c : Char) : Char :=
  if 'A' ≤ c ∧ c ≤ 'Z' then Char.ofNat (c.toNat + 32) else c

/-- The value of the digits at the front, continuing from `acc`. -/
def digitsValue (ds : List Char) : Nat :=
  ds.foldl (fun acc c => acc * 10 + (c.toNat - 48)) 0

/-- An optional sign and at least one digit. -/
def exponent? (cs : List Char) : Option Int :=
  match cs with
  | '-' :: rest => (natural? 10 rest).map fun n => -(n : Int)
  | '+' :: rest => (natural? 10 rest).map Int.ofNat
  | rest => (natural? 10 rest).map Int.ofNat

/-- What may follow the digits: nothing, or an exponent. -/
def tail? : List Char → Option Int
  | [] => some 0
  | c :: rest => if c = 'e' ∨ c = 'E' then exponent? rest else none

/-- A number without its sign. -/
def magnitude? (negative : Bool) (cs : List Char) : Option Binary64 :=
  let whole := cs.takeWhile isDigit
  let rest := cs.dropWhile isDigit
  let (fraction, rest) := match rest with
    | '.' :: rest => (rest.takeWhile isDigit, rest.dropWhile isDigit)
    | rest => ([], rest)
  if whole.isEmpty && fraction.isEmpty then none
  else (tail? rest).map fun e =>
    let ds := whole ++ fraction
    ofDecimal negative (digitsValue ds) ds.length (e - fraction.length)

def named? (negative : Bool) (cs : List Char) : Option Binary64 :=
  let name := String.ofList (cs.map lowerAscii)
  if name = "inf" ∨ name = "infinity" then some (.infinite negative)
  else if name = "nan" then some .nan
  else none

def read? (cs : List Char) : Option Binary64 :=
  let (negative, rest) := match cs with
    | '-' :: rest => (true, rest)
    | '+' :: rest => (false, rest)
    | rest => (false, rest)
  (named? negative rest).orElse fun _ => magnitude? negative rest

/-- The value of a sample's text. -/
def ofText? (s : String) : Option Binary64 :=
  read? s.toList

end EngineTrials.Binary64
