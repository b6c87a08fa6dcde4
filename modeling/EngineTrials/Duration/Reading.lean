import EngineTrials.Duration
import EngineTrials.Text.Blank

/-!
# Reading durations

A duration is a sum of quantities with units, such as `1m 30s` or `1.5h`; a bare number is seconds.
A fraction must come out exact, to the nanosecond below an hour and to the second from there on, and
the whole must fit in 64 bits of seconds.
-/
namespace EngineTrials.Duration
open Text

/-- What one unit stands for. -/
inductive UnitSize
  | nanos (n : Nat)
  | seconds (n : Nat)
deriving DecidableEq

/-- Units are told apart by case: `m` is a minute and `M` a month. -/
def unitSize? (name : String) : Option UnitSize :=
  if ["nanos", "nsec", "ns"].contains name then some (.nanos 1)
  else if ["usec", "us", "µs"].contains name then some (.nanos 1000)
  else if ["millis", "msec", "ms"].contains name then some (.nanos 1000000)
  else if ["seconds", "second", "secs", "sec", "s"].contains name then some (.seconds 1)
  else if ["minutes", "minute", "min", "mins", "m"].contains name then some (.seconds 60)
  else if ["hours", "hour", "hr", "hrs", "h"].contains name then some (.seconds 3600)
  else if ["days", "day", "d"].contains name then some (.seconds 86400)
  else if ["weeks", "week", "wk", "wks", "w"].contains name then some (.seconds (86400 * 7))
  else if ["months", "month", "M"].contains name then some (.seconds 2630016)
  else if ["years", "year", "yr", "yrs", "y"].contains name then some (.seconds 31557600)
  else none

/-- A fraction below one, as it was written. -/
structure Fraction where
  numerator : Nat
  denominator : Nat

def isUnitLetter (c : Char) : Bool :=
  ('a' ≤ c && c ≤ 'z') || ('A' ≤ c && c ≤ 'Z') || c == 'µ'

def withinWord? (n : Nat) : Option Nat :=
  if n ≤ maxWord then some n else none

/-- Adds seconds and nanoseconds to a total in nanoseconds; neither may outgrow 64 bits. -/
def add? (total seconds nanos : Nat) : Option Nat := do
  let nanos ← withinWord? (total % nanosPerSecond + nanos)
  let _ ← withinWord? (total / nanosPerSecond + seconds + nanos / nanosPerSecond)
  return total / nanosPerSecond * nanosPerSecond + seconds * nanosPerSecond + nanos

/-- `numerator * scale / denominator`, if it is a whole number. -/
def exactly? (f : Fraction) (scale : Nat) : Option Nat := do
  let n ← withinWord? (f.numerator * scale)
  if n % f.denominator = 0 then some (n / f.denominator) else none

/-- Adds a whole number of units. -/
def addWhole? (total n : Nat) : UnitSize → Option Nat
  | .nanos k => do add? total 0 (← withinWord? (n * k))
  | .seconds k => do add? total (← withinWord? (n * k)) 0

/-- Adds a fraction of a unit. A nanosecond has none. -/
def addFraction? (total : Nat) (f : Fraction) : UnitSize → Option Nat
  | .nanos k => if k = 1 then none else do add? total 0 (← exactly? f k)
  | .seconds k =>
    if k < 3600 then do add? total 0 (← exactly? f (k * nanosPerSecond))
    else do add? total (← exactly? f k) 0

def addQuantity? (total n : Nat) (f : Option Fraction) (unit : List Char) : Option Nat := do
  let size ← unitSize? (String.ofList unit)
  let total ← addWhole? total n size
  match f with
  | none => return total
  | some f => addFraction? total f size

/-- Where a reader of quantities stands. Blanks count for nothing within a number. -/
inductive Position
  /-- Before a quantity; only the first one must be there. -/
  | start (required : Bool)
  /-- Within a whole part. -/
  | whole (n : Nat)
  /-- Within a fraction of which some digits may have been read. -/
  | fraction (n : Nat) (f : Fraction)
  /-- Within a unit, its letters reversed. -/
  | unit (n : Nat) (f : Option Fraction) (letters : List Char)

/-- The total of the quantities from here on. -/
def quantities? (total : Nat) : Position → List Char → Option Nat
  | .start required, [] => if required then none else some total
  | .start required, c :: rest =>
    if isDigit c then quantities? total (.whole (c.toNat - 48)) rest
    else if isBlank c then quantities? total (.start required) rest
    else none
  | .whole n, c :: rest =>
    if isDigit c then
      if n * 10 + (c.toNat - 48) ≤ maxWord then
        quantities? total (.whole (n * 10 + (c.toNat - 48))) rest
      else none
    else if isBlank c then quantities? total (.whole n) rest
    else if isUnitLetter c then quantities? total (.unit n none [c]) rest
    else if c = '.' then quantities? total (.fraction n ⟨0, 1⟩) rest
    else none
  | .fraction n f, c :: rest =>
    if isDigit c then
      if f.denominator * 10 ≤ maxWord then
        quantities? total
          (.fraction n ⟨f.numerator * 10 + (c.toNat - 48), f.denominator * 10⟩) rest
      else none
    else if isBlank c then quantities? total (.fraction n f) rest
    else if isUnitLetter c && f.denominator ≠ 1 then quantities? total (.unit n (some f) [c]) rest
    else none
  | .unit n f letters, [] => addQuantity? total n f letters.reverse
  | .unit n f letters, c :: rest =>
    if isDigit c then do
      quantities? (← addQuantity? total n f letters.reverse) (.whole (c.toNat - 48)) rest
    else if isBlank c then do
      quantities? (← addQuantity? total n f letters.reverse) (.start false) rest
    else if isUnitLetter c then quantities? total (.unit n f (c :: letters)) rest
    else none
  | _, [] => none

/-- A sum of quantities with units; `0` needs none. -/
def withUnits? (cs : List Char) : Option Duration :=
  if cs = ['0'] then some ⟨0⟩ else (quantities? 0 (.start true) cs).map Duration.mk

/-- A duration setting: quantities with units, or else a 64-bit number of seconds. -/
def read? (s : String) : Option Duration :=
  let cs := trimBlank s.toList
  (withUnits? cs).orElse fun _ => (bounded? 10 maxWord cs).map ofSeconds

end EngineTrials.Duration
