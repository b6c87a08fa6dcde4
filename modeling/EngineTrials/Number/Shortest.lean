import EngineTrials.Number.Binary64
import EngineTrials.Text.Digits

/-!
# Shortest decimals

The decimal of a finite value with the fewest digits that reads back as that value, and of those
with as few digits the nearest. `text` is the form samples are written in; `plain` never uses an
exponent.
-/
namespace EngineTrials.Binary64
open Text

/-- A decimal `digits · 10^exponent`. -/
structure Decimal where
  digits : Nat
  exponent : Int
deriving DecidableEq

/-- `num / den` after division by `10^p`, as a ratio. -/
def decimalScaled (num den : Nat) (p : Int) : Nat × Nat :=
  match p with
  | .ofNat k => (num, den * Nat.pow 10 k)
  | .negSucc k => (num * Nat.pow 10 (k + 1), den)

/-- The least exponent among `start, …, start + fuel` whose power of ten exceeds `num / den`. -/
def tenPowerAbove (num den : Nat) : Nat → Int → Int
  | 0, p => p
  | fuel + 1, p =>
    let (a, b) := decimalScaled num den p
    if a < b then p else tenPowerAbove num den fuel (p + 1)

/-- The ends of the interval of reals that round to `m · 2^e`, in units of `2^(e-2)`. Below a power
of two the next value is only half as far. -/
def roundingEnds (m : Nat) (e : Int) : Nat × Nat :=
  if m = 1 <<< (precision - 1) ∧ leastExponent < e then (4 * m - 1, 4 * m + 2)
  else (4 * m - 2, 4 * m + 2)

/-- Whether `digits · 10^p` rounds to `m · 2^e`. The ends belong to an even mantissa. -/
def roundsTo (m : Nat) (e : Int) (digits : Nat) (p : Int) : Bool :=
  let (lo, hi) := roundingEnds m e
  let (num, den) := decimalScaled digits 1 (-p)
  let (a, b) := scaled num den (e - 2)
  if m % 2 = 0 then lo * b ≤ a && a ≤ hi * b else lo * b < a && a < hi * b

/-- The decimal on the grid of `10^p` that rounds to the value, the nearer if both neighbours do,
and the upper one of two equally near. -/
def onGrid? (m : Nat) (e : Int) (p : Int) : Option Decimal :=
  let (num, den) := ratio m e
  let (a, b) := decimalScaled num den p
  let below := a / b
  let upperIsNearer := 2 * (a % b) ≥ b
  let first := if upperIsNearer then below + 1 else below
  let second := if upperIsNearer then below else below + 1
  if first ≠ 0 && roundsTo m e first p then some ⟨first, p⟩
  else if second ≠ 0 && roundsTo m e second p then some ⟨second, p⟩
  else none

/-- Tries grids of one digit, two digits and so on. -/
def shortestFrom (m : Nat) (e : Int) (top : Int) : Nat → Nat → Decimal
  | 0, n => (onGrid? m e (top - n)).getD ⟨0, 0⟩
  | fuel + 1, n =>
    match onGrid? m e (top - n) with
    | some d => d
    | none => shortestFrom m e top fuel (n + 1)

/-- Seventeen digits always suffice. -/
def shortest (m : Nat) (e : Int) : Decimal :=
  let (num, den) := ratio m e
  let estimate : Int := ((num.log2 : Int) - (den.log2 : Int)) * 30103 / 100000 - 2
  let top := tenPowerAbove num den 8 estimate
  shortestFrom m e top 17 1

/-- The significant digits, and the power of ten just above the value. -/
def significant (d : Decimal) : List Char × Int :=
  let ds := numeral 10 d.digits
  let kept := (ds.reverse.dropWhile (· == '0')).reverse
  (kept, d.exponent + ds.length)

/-- Digits with the point after `top` of them, filled up with zeros on either side; at least
`places` digits follow the point, and none means no point. -/
def positional (places : Nat) (ds : List Char) (top : Int) : List Char :=
  let whole := if top ≤ 0 then ['0'] else
    ds.take top.toNat ++ List.replicate (top.toNat - ds.length) '0'
  let fraction := List.replicate (-top).toNat '0' ++ ds.drop top.toNat
  let fraction := fraction ++ List.replicate (places - fraction.length) '0'
  if fraction.isEmpty then whole else whole ++ ['.'] ++ fraction

/-- One digit, the others after a point, and the power of ten of the first digit. -/
def scientific (ds : List Char) (top : Int) : List Char :=
  let rest := ds.drop 1
  ds.take 1 ++ (if rest.isEmpty then [] else '.' :: rest) ++ ['e'] ++ (decimal (top - 1)).toList

def sign (negative : Bool) : List Char :=
  if negative then ['-'] else []

/-- Exponents that a sample is written positionally with: from `0.0001` to below `1e16`. -/
def isPositional (top : Int) : Bool :=
  -3 ≤ top && top ≤ 16

/-- The form samples are written in: always a point or an exponent. -/
def text : Binary64 → String
  | nan => "NaN"
  | infinite negative => String.ofList (sign negative ++ ['i', 'n', 'f'])
  | finite negative m e =>
    if m = 0 then String.ofList (sign negative ++ ['0', '.', '0'])
    else
      let (ds, top) := significant (shortest m e)
      String.ofList (sign negative ++
        if isPositional top then positional 1 ds top else scientific ds top)

/-- The form without an exponent; a whole number has no point. -/
def plain : Binary64 → String
  | nan => "NaN"
  | infinite negative => String.ofList (sign negative ++ ['i', 'n', 'f'])
  | finite negative m e =>
    if m = 0 then String.ofList (sign negative ++ ['0'])
    else
      let (ds, top) := significant (shortest m e)
      String.ofList (sign negative ++ positional 0 ds top)

end EngineTrials.Binary64
