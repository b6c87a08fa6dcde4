import EngineTrials.Number.Shortest

/-!
# Durations

Whole nanoseconds, as many as fit in 64 bits of seconds and a fraction. `text` is the form of
messages (`5s`, `1.5ms`), `secondsText` the number of seconds as the nearest binary floating point
value.
-/
namespace EngineTrials

/-- The nanoseconds in a second. -/
def nanosPerSecond : Nat := 1000000000

structure Duration where
  nanoseconds : Nat
deriving DecidableEq, Inhabited

namespace Duration
open Text

def ofSeconds (n : Nat) : Duration := ⟨n * nanosPerSecond⟩

def ofMillis (n : Nat) : Duration := ⟨n * 1000000⟩

def seconds (d : Duration) : Nat := d.nanoseconds / nanosPerSecond

/-- The nanoseconds beyond whole seconds. -/
def fraction (d : Duration) : Nat := d.nanoseconds % nanosPerSecond

/-- The digits after the point of `n / 10^width`, with the point and without trailing zeros. -/
def fractionDigits (width n : Nat) : List Char :=
  let ds := ((padded 10 width n).reverse.dropWhile (· == '0')).reverse
  if ds.isEmpty then [] else '.' :: ds

/-- A quantity of a unit that is `10^width` of the smallest. -/
def inUnit (width n : Nat) (unit : String) : String :=
  let size := Nat.pow 10 width
  String.ofList (numeral 10 (n / size) ++ fractionDigits width (n % size)) ++ unit

/-- In the largest of seconds, milliseconds, microseconds and nanoseconds that it reaches. -/
def text (d : Duration) : String :=
  let n := d.nanoseconds
  if nanosPerSecond ≤ n then inUnit 9 n "s"
  else if 1000000 ≤ n then inUnit 6 n "ms"
  else if 1000 ≤ n then inUnit 3 n "µs"
  else inUnit 0 n "ns"

/-- The seconds as a binary floating point value: whole seconds and fraction are rounded first and
then their sum. -/
def inSeconds (d : Duration) : Binary64 :=
  .addMagnitudes (.ofRatio false d.seconds 1) (.ofRatio false d.fraction nanosPerSecond)

def secondsText (d : Duration) : String := d.inSeconds.plain

end Duration

end EngineTrials
