/-!
# Words

Which integers a word of so many bits can hold, with and without a sign.
-/
namespace EngineTrials

/-- Whether an integer is a word without a sign. -/
def fitsUnsigned (bits : Nat) (n : Int) : Bool :=
  0 ≤ n && n < (1 <<< bits : Nat)

/-- Whether an integer is a word in two's complement. -/
def fitsSigned (bits : Nat) (n : Int) : Bool :=
  -(1 <<< (bits - 1) : Nat) ≤ n && n < (1 <<< (bits - 1) : Nat)

end EngineTrials
