import EngineTrials.Proofs.CounterHistory
import Mathlib.Algebra.Group.Nat.Defs

/-!
# Counters in machine words

Counts are only ever added up, and in words of 64 bits adding drops what is too large for a word.
So counters in words are those in whole numbers, each count taken modulo 2^64. What whole numbers
promise holds of the words as long as fewer than 2^64 records were made, where the records of
counters that are merged in count each time; a history of 64 merges is enough to make that many.
-/
namespace EngineTrials

section Counting

variable {ν μ : Type} [Add ν] [OfNat ν 0] [OfNat ν 1] [Add μ] [OfNat μ 0] [OfNat μ 1] {f : ν → μ}

namespace Tally

end Tally

namespace Counters

end Counters

end Counting

namespace Tally

namespace Fits

variable {t : Tally}

end Fits

end Tally

namespace Counters.History

/-- Counters that are merged with themselves so many times. -/
def doubled (h : History) : Nat → History
  | 0 => h
  | n + 1 => merge (h.doubled n) (h.doubled n)

end Counters.History

end EngineTrials
