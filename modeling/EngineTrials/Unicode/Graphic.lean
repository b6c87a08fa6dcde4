import EngineTrials.Unicode.Property

/-!
# Characters that do not show

The code points that a reader of a quoted text could not see or tell apart: those without a graphic
(controls, formats, private use, unassigned, separators other than the space) and those that extend
the character before them.
-/
namespace EngineTrials.Unicode

def nonGraphic : CodeRanges :=
  .diff (ofCategories ["Cc", "Cf", "Co", "Cn", "Cs", "Zl", "Zp", "Zs"]) (.single 0x20)

def graphemeExtend : CodeRanges := Property.graphemeExtend.members

def isHidden (c : Char) : Bool :=
  if ' ' ≤ c ∧ c ≤ '~' then false else nonGraphic.contains c || graphemeExtend.contains c

end EngineTrials.Unicode
