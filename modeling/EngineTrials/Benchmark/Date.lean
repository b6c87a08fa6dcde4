import EngineTrials.Text.Digits

/-!
# Dates

Days of the proleptic Gregorian calendar, written with the year first. Years of more than four
digits have a plus sign, years before the first a minus sign.
-/
namespace EngineTrials

structure Date where
  year : Int
  month : Nat
  day : Nat
deriving DecidableEq, Inhabited

namespace Date
open Text

def yearText (y : Int) : List Char :=
  match y with
  | .ofNat n => if n ≤ 9999 then padded 10 4 n else '+' :: padded 10 4 n
  | .negSucc n => '-' :: padded 10 4 (n + 1)

def text (d : Date) : String :=
  String.ofList (yearText d.year ++ ['-'] ++ padded 10 2 d.month ++ ['-'] ++ padded 10 2 d.day)

/-- The date so many days after the first of January 1970. Years are counted from March, so that a
leap day is the last of its year, in cycles of four hundred years. -/
def ofDays (days : Nat) : Date :=
  let n := days + 719468
  let (cycle, dayOfCycle) := (n / 146097, n % 146097)
  let year := (dayOfCycle - dayOfCycle / 1460 + dayOfCycle / 36524 - dayOfCycle / 146096) / 365
  let dayOfYear := dayOfCycle - (365 * year + year / 4 - year / 100)
  let m := (5 * dayOfYear + 2) / 153
  let day := dayOfYear - (153 * m + 2) / 5 + 1
  let month := if m < 10 then m + 3 else m - 9
  ⟨(year + cycle * 400 + (if month ≤ 2 then 1 else 0) : Nat), month, day⟩

end Date

end EngineTrials
