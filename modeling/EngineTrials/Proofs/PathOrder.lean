import EngineTrials.Path

/-!
# The order of paths

Components are ordered by rank and then by name, and lists of components lexicographically, so that
paths are equal in the order exactly if they have the same components. Sorting is by this order:
it arranges the paths in ascending order, and strictly so if no two of them are equal in it.
-/
namespace EngineTrials.Path

namespace Component

theorem compare_eq_compareLex :
    Component.compare = compareLex (compareOn rank) (compareOn nameText) := rfl

theorem eq_of_rank_of_nameText {a b : Component} (hrank : a.rank = b.rank)
    (hname : a.nameText = b.nameText) : a = b := by
  cases a <;> cases b <;> simp_all [rank, nameText]

instance : Std.TransCmp Component.compare := by
  rw [compare_eq_compareLex]
  infer_instance

instance : Std.LawfulEqCmp Component.compare where
  eq_of_compare {a b} h := by
    obtain ⟨hrank, hname⟩ := Ordering.then_eq_eq.mp h
    exact eq_of_rank_of_nameText (Std.LawfulEqOrd.eq_of_compare hrank)
      (Std.LawfulEqOrd.eq_of_compare hname)

end Component

theorem compareComponents_eq_compareLex :
    compareComponents = List.compareLex Component.compare := by
  funext as bs
  induction as generalizing bs with
  | nil => cases bs <;> rfl
  | cons a as ih =>
    cases bs with
    | nil => rfl
    | cons b bs =>
      rw [compareComponents, ih, List.compareLex_cons_cons]

instance : Std.TransCmp compareComponents := by
  rw [compareComponents_eq_compareLex]
  infer_instance

/-- Paths that only differ in what components leave out are equal in the order. -/
theorem compare_eq_iff {p q : Path} : compare p q = .eq ↔ p.components = q.components := by
  rw [compare, compareComponents_eq_compareLex]
  exact Std.LawfulEqCmp.compare_eq_iff_eq

theorem le_trans {p q r : Path} (hpq : le p q = true) (hqr : le q r = true) : le p r = true := by
  have htrans : (compareComponents p.components r.components).isLE = true :=
    Std.TransCmp.isLE_trans hpq hqr
  exact htrans

theorem le_total (p q : Path) : (le p q || le q p) = true := by
  have hswap : compareComponents q.components p.components =
      (compareComponents p.components q.components).swap := Std.OrientedCmp.eq_swap
  rw [le, le, compare, compare, hswap]
  cases compareComponents p.components q.components <;> rfl

theorem sort_perm (ps : List Path) : (sort ps).Perm ps :=
  List.mergeSort_perm ps le

theorem sort_ascending (ps : List Path) : (sort ps).Pairwise fun p q => le p q = true := by
  have htrans (p q r : Path) (hpq : le p q = true) (hqr : le q r = true) : le p r = true :=
    le_trans hpq hqr
  exact List.pairwise_mergeSort htrans le_total ps

theorem compare_eq_lt {p q : Path} (hle : le p q = true) (hne : p.components ≠ q.components) :
    compare p q = .lt := by
  have hne : compare p q ≠ .eq := fun heq => hne (compare_eq_iff.mp heq)
  rw [le] at hle
  cases h : compare p q with
  | lt => rfl
  | eq => exact absurd h hne
  | gt => rw [h] at hle; cases hle

/-- If no two of the paths have the same components, each is strictly before the next. -/
theorem sort_strictly_ascending {ps : List Path}
    (h : ps.Pairwise fun p q => p.components ≠ q.components) :
    (sort ps).Pairwise fun p q => compare p q = .lt := by
  have hdistinct : (sort ps).Pairwise fun p q => p.components ≠ q.components :=
    ((sort_perm ps).pairwise_iff Ne.symm).mpr h
  exact (sort_ascending ps).and hdistinct |>.imp fun ⟨hle, hne⟩ => compare_eq_lt hle hne

end EngineTrials.Path
