import EngineTrials.Proofs.PathSteps
import EngineTrials.Proofs.Trails

/-!
# Places in a tree

Many paths lead to one node. Its place is what they have in common: the names from the root on that
lead to it. A path tells the place without the tree, since there are no links.
-/
namespace EngineTrials
open EngineTrials.Path

namespace Path

/-- The pieces of a path, slashes left out, stand for its steps one by one. -/
theorem passed_eq_flatMap (cs : List Char) :
    passed cs = (cut cs).flatMap fun s => stepsOf (String.ofList s) := by
  rw [passed]
  induction cut cs with
  | nil => rfl
  | cons s rest ih =>
    rw [List.flatMap_cons, ← ih, stepsOf, String.toList_ofList, List.filter_cons]
    cases isTrivial s <;> rfl

theorem steps_eq_flatMap (p : Path) : p.steps = (FileSystem.namesOf p).flatMap stepsOf := by
  rw [steps_eq_passed, passed_eq_flatMap, FileSystem.namesOf, List.flatMap_map, segments]
  by_cases habsolute : p.isAbsolute = true
  · obtain ⟨cs, hcs⟩ := List.head?_eq_some_iff.mp (eq_of_beq habsolute)
    have hcut : cut p.chars = [] :: cut cs := by
      rw [hcs]
      exact cut_append_slash [] cs
    rw [if_pos habsolute, hcut, hcs]
    rfl
  · rw [if_neg habsolute]
    rfl

end Path

namespace FileSystem

/-- Where one more step leads from a place. -/
def climb (place : List String) : Component → List String
  | .parent => place.tail
  | .name n => n :: place
  | .root | .current => place

/-- The place that a path leads to: the names from the root, the last one first. -/
def place (fs : FileSystem) (p : Path) : List String :=
  p.steps.foldl climb ((fs.startOf p).map Prod.fst)

end FileSystem
end EngineTrials
