import EngineTrials.Text.Pieces

/-!
# Lines as a multiset

The lines of a text are its pieces between line feeds, empty ones included. Sorting forgets their
order and nothing else: two texts have the same sorted lines exactly if the lines of one are a
permutation of the lines of the other.
-/
namespace EngineTrials.Text

theorem pieces_eq_splitOnP {α : Type} (sep : α → Bool) (cs : List α) :
    pieces sep cs = cs.splitOnP sep := by
  induction cs with
  | nil => simp
  | cons c rest ih =>
    rw [pieces, ih, List.splitOnP_cons_eq_if_modifyHead]
    cases h : rest.splitOnP sep with
    | nil => exact absurd h (List.splitOnP_ne_nil sep rest)
    | cons p ps => rfl

/-- The lines of a string in their order. -/
def linesOf (s : String) : List String :=
  (s.toList.splitOn '\n').map String.ofList

theorem sortedLines_eq (s : String) :
    sortedLines s = (linesOf s).mergeSort (fun a b => decide (a ≤ b)) := by
  rw [sortedLines, lines, pieces_eq_splitOnP, linesOf, List.splitOn_eq_splitOnP]

theorem sortedLines_perm (s : String) : (sortedLines s).Perm (linesOf s) := by
  rw [sortedLines_eq]
  exact List.mergeSort_perm _ _

theorem ascending_mergeSort (names : List String) :
    (names.mergeSort fun a b => decide (a ≤ b)).Pairwise (· ≤ ·) := by
  have h := @List.pairwise_mergeSort String (fun a b => decide (a ≤ b))
    (fun a b c hab hbc => by
      simp only [decide_eq_true_eq] at *
      exact String.le_trans hab hbc)
    (fun a b => by simpa using String.le_total a b) names
  simpa only [decide_eq_true_eq] using h

theorem sortedLines_ascending (s : String) : (sortedLines s).Pairwise (· ≤ ·) := by
  rw [sortedLines_eq]
  exact ascending_mergeSort (linesOf s)

/-- There is one way only to sort lines. -/
theorem eq_sortedLines {sorted : List String} {s : String} (hp : sorted.Perm (linesOf s))
    (hs : sorted.Pairwise (· ≤ ·)) : sorted = sortedLines s :=
  (hp.trans (sortedLines_perm s).symm).eq_of_pairwise
    (fun _ _ _ _ => String.le_antisymm) hs (sortedLines_ascending s)

theorem sortedLines_eq_iff {s t : String} :
    sortedLines s = sortedLines t ↔ (linesOf s).Perm (linesOf t) := by
  constructor
  · intro h
    exact (sortedLines_perm s).symm.trans (h ▸ sortedLines_perm t)
  · intro h
    exact eq_sortedLines ((sortedLines_perm s).trans h) (sortedLines_ascending s)

/-- Cutting takes the separators out, of which there is one fewer than there are pieces. -/
theorem length_splitOn (sep : Char) (cs : List Char) :
    (cs.splitOn sep).flatten.length + (cs.splitOn sep).length = cs.length + 1 := by
  simp only [List.splitOn_eq_splitOnP]
  induction cs with
  | nil => rfl
  | cons c rest ih =>
    rw [List.splitOnP_cons_eq_if_modifyHead]
    by_cases hc : (c == sep) = true
    · rw [if_pos hc, List.flatten_cons, List.nil_append, List.length_cons, List.length_cons]
      omega
    · rw [if_neg hc]
      cases hp : rest.splitOnP (· == sep) with
      | nil => exact absurd hp (List.splitOnP_ne_nil _ rest)
      | cons p ps =>
        simp only [hp, List.modifyHead_cons, List.flatten_cons, List.cons_append,
          List.length_cons] at ih ⊢
        omega

theorem length_flatMap_linesOf (s : String) :
    ((linesOf s).flatMap String.toList).length + (linesOf s).length = s.toList.length + 1 := by
  have hback : (linesOf s).flatMap String.toList = (s.toList.splitOn '\n').flatten := by
    simp only [linesOf, List.flatMap_map, String.toList_ofList, List.flatMap_id']
  rw [hback, linesOf, List.length_map, length_splitOn]

/-- Texts with the same lines are of the same length. -/
theorem length_eq_of_linesOf_perm {s t : String} (h : (linesOf s).Perm (linesOf t)) :
    s.toList.length = t.toList.length := by
  have hs := length_flatMap_linesOf s
  have ht := length_flatMap_linesOf t
  have hlines := h.length_eq
  have hchars := (h.flatMap_right String.toList).length_eq
  omega

end EngineTrials.Text
