/-!
# Binary floating point

The values of the 64-bit binary format, held as their parts: a finite value is `± m · 2^e` with
`m < 2^53` and `e ≥ -1074`, where `m ≥ 2^52` unless `e` is least. `ofRatio` is the one rounding
there is, to the nearest value and to the even one of two equally near.
-/
namespace EngineTrials

inductive Binary64
  | nan
  | infinite (negative : Bool)
  | finite (negative : Bool) (mantissa : Nat) (exponent : Int)
deriving DecidableEq, Inhabited

namespace Binary64

/-- Mantissas have at most this many bits. -/
def precision : Nat := 53

def leastExponent : Int := -1074

/-- From this exponent on a full mantissa is beyond the largest finite value. -/
def overflowExponent : Int := 972

def zero (negative : Bool) : Binary64 :=
  .finite negative 0 leastExponent

/-- The quotient `num / den`, rounded to the nearest whole number, a half to the even one. -/
def roundDiv (num den : Nat) : Nat :=
  let q := num / den
  let r := num % den
  if 2 * r < den then q
  else if 2 * r = den then q + q % 2
  else q + 1

/-- `num / den` as a quotient of whole numbers after division by `2^e`. -/
def scaled (num den : Nat) (e : Int) : Nat × Nat :=
  match e with
  | .ofNat k => (num, den <<< k)
  | .negSucc k => (num <<< (k + 1), den)

/-- Whether `num / den` is below `2^k`. -/
def belowPower (num den : Nat) (k : Int) : Bool :=
  let (a, b) := scaled num den k
  a < b

/-- The value nearest to `± num / den`, for a positive `den`. -/
def ofRatio (negative : Bool) (num den : Nat) : Binary64 :=
  if num = 0 then zero negative
  else
    let k : Int := (num.log2 : Int) - (den.log2 : Int)
    let e := max leastExponent (if belowPower num den k then k - 53 else k - 52)
    let (a, b) := scaled num den e
    let m := roundDiv a b
    let (m, e) := if m = 1 <<< precision then (1 <<< (precision - 1), e + 1) else (m, e)
    if m ≠ 0 ∧ overflowExponent ≤ e then .infinite negative
    else if m = 0 then zero negative
    else .finite negative m e

/-- The magnitude of a finite value as a ratio. -/
def ratio (mantissa : Nat) (exponent : Int) : Nat × Nat :=
  match exponent with
  | .ofNat k => (mantissa <<< k, 1)
  | .negSucc k => (mantissa, 1 <<< (k + 1))

/-- The rounded sum of two values that are not negative. -/
def addMagnitudes : Binary64 → Binary64 → Binary64
  | .finite _ m e, .finite _ m' e' =>
    let (a, b) := ratio m e
    let (c, d) := ratio m' e'
    ofRatio false (a * d + c * b) (b * d)
  | .nan, _ | _, .nan => .nan
  | _, _ => .infinite false

/-- The value nearest to `± digits · 10^exponent`. Outside the range of the format the powers of
ten need not be computed: `width` bounds the number of digits. -/
def ofDecimal (negative : Bool) (digits width : Nat) (exponent : Int) : Binary64 :=
  if digits = 0 then zero negative
  else if 400 < exponent then .infinite negative
  else if exponent + width < -400 then zero negative
  else match exponent with
    | .ofNat k => ofRatio negative (digits * Nat.pow 10 k) 1
    | .negSucc k => ofRatio negative digits (Nat.pow 10 (k + 1))

end Binary64

end EngineTrials
