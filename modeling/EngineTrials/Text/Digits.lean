/-!
# Numerals

Digits and whole numerals in a radix: `natural?` reads a nonempty run of digits and `numeral`
writes one, `padded` to a least width. Letters stand for digits from ten on, small when written.
-/
namespace EngineTrials.Text

/-- The value of a digit in some radix up to 36, letters of either case from ten on. -/
def digit? (radix : Nat) (c : Char) : Option Nat :=
  let n := c.toNat
  let value :=
    if '0' ≤ c ∧ c ≤ '9' then some (n - 48)
    else if 'a' ≤ c ∧ c ≤ 'z' then some (n - 87)
    else if 'A' ≤ c ∧ c ≤ 'Z' then some (n - 55)
    else none
  value.filter (· < radix)

def isDigit (c : Char) : Bool :=
  '0' ≤ c && c ≤ '9'

/-- Reads digits to the end, continuing from the value of those already read. -/
def foldDigits? (radix : Nat) : Nat → List Char → Option Nat
  | acc, [] => some acc
  | acc, c :: rest => do foldDigits? radix (acc * radix + (← digit? radix c)) rest

/-- A nonempty run of digits, leading zeros allowed, nothing else. -/
def natural? (radix : Nat) : List Char → Option Nat
  | [] => none
  | cs => foldDigits? radix 0 cs

/-- A numeral with an optional plus sign whose value is at most `limit`. -/
def bounded? (radix limit : Nat) (cs : List Char) : Option Nat :=
  let digits := match cs with
    | '+' :: rest => rest
    | cs => cs
  (natural? radix digits).filter (· ≤ limit)

/-- A numeral with an optional sign, read as an integer between the bounds. -/
def boundedInt? (radix : Nat) (least greatest : Int) (cs : List Char) : Option Int :=
  let value := match cs with
    | '-' :: rest => (natural? radix rest).map fun n => -(n : Int)
    | '+' :: rest => (natural? radix rest).map Int.ofNat
    | cs => (natural? radix cs).map Int.ofNat
  value.filter fun v => decide (least ≤ v ∧ v ≤ greatest)

/-- The greatest 64-bit word. -/
def maxWord : Nat := 18446744073709551615

/-- A 64-bit word in decimal, with an optional plus sign. -/
def word? (s : String) : Option Nat :=
  bounded? 10 maxWord s.toList

/-- The numeral of `n` in a radix from 2 to 16, without leading zeros. -/
def numeral (radix n : Nat) : List Char :=
  Nat.toDigits radix n

/-- A numeral filled up with zeros to at least `width` digits. -/
def padded (radix width n : Nat) : List Char :=
  let ds := numeral radix n
  List.replicate (width - ds.length) '0' ++ ds

/-- The text of an integer: a minus sign if negative, then its decimal digits. -/
def decimal (i : Int) : String :=
  match i with
  | .ofNat n => String.ofList (numeral 10 n)
  | .negSucc n => String.ofList ('-' :: numeral 10 (n + 1))

/-- The text of a natural number in decimal. -/
def count (n : Nat) : String :=
  String.ofList (numeral 10 n)

end EngineTrials.Text
