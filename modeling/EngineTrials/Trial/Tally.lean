/-!
# Tallies

How many outcomes there were and how many of them passed. The counts of a run are as many as its
outcomes, so they are whole numbers; tallies that are merged any number of times are kept in machine
words of 64 bits, in which adding starts over from zero.
-/
namespace EngineTrials

/-- A tally whose counts are of the type `ν`. -/
structure Tally (ν : Type := Nat) where
  passed : ν
  total : ν
deriving DecidableEq, Inhabited

namespace Tally

variable {ν μ : Type}

instance [OfNat ν 0] : EmptyCollection (Tally ν) := ⟨⟨0, 0⟩⟩

/-- Counts one outcome. -/
def record [Add ν] [OfNat ν 1] (t : Tally ν) (passed : Bool) : Tally ν :=
  ⟨if passed then t.passed + 1 else t.passed, t.total + 1⟩

def merge [Add ν] (a b : Tally ν) : Tally ν :=
  ⟨a.passed + b.passed, a.total + b.total⟩

/-- No tally of outcomes has more passes than outcomes, unless its words have started over. -/
def failed [Sub ν] (t : Tally ν) : ν := t.total - t.passed

def allPassed [DecidableEq ν] (t : Tally ν) : Bool := t.passed = t.total

/-- The same tally in counts of another type. -/
def map (f : ν → μ) (t : Tally ν) : Tally μ := ⟨f t.passed, f t.total⟩

@[ext] theorem ext {a b : Tally ν} (hp : a.passed = b.passed) (ht : a.total = b.total) : a = b := by
  cases a; cases b; simp_all

end Tally

end EngineTrials
