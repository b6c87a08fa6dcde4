import EngineTrials.Text.Blank

/-!
# Pieces of a text

`pieces` cuts a list at every separator and keeps empty pieces; `glue` undoes it. Lines are the
pieces at `'\n'`, words the nonempty pieces at blanks, and `sortedLines` forgets the order of the
lines but not how often each occurs.
-/
namespace EngineTrials.Text

/-- Cuts at every separator; there is always at least one piece. -/
def pieces {α : Type} (sep : α → Bool) : List α → List (List α)
  | [] => [[]]
  | c :: rest =>
    match pieces sep rest with
    | [] => if sep c then [[], []] else [[c]]
    | p :: ps => if sep c then [] :: p :: ps else (c :: p) :: ps

/-- Joins pieces with one separator between each two. -/
def glue {α : Type} (sep : List α) : List (List α) → List α
  | [] => []
  | [p] => p
  | p :: q :: ps => p ++ sep ++ glue sep (q :: ps)

@[simp] theorem pieces_nil {α : Type} (sep : α → Bool) : pieces sep ([] : List α) = [[]] := rfl

theorem pieces_ne_nil {α : Type} (sep : α → Bool) (cs : List α) : pieces sep cs ≠ [] := by
  cases cs with
  | nil => simp
  | cons c rest =>
    simp only [pieces]
    split <;> split <;> simp

/-- The pieces of a list at one separator, glued with it, give the list back. -/
theorem glue_pieces {α : Type} [DecidableEq α] (sep : α) (cs : List α) :
    glue [sep] (pieces (fun c => c == sep) cs) = cs := by
  induction cs with
  | nil => rfl
  | cons c rest ih =>
    simp only [pieces]
    cases hp : pieces (fun c => c == sep) rest with
    | nil => exact absurd hp (pieces_ne_nil _ _)
    | cons p ps =>
      rw [hp] at ih
      by_cases hc : c = sep
      · subst hc
        simp [glue, ih]
      · cases ps with
        | nil => simpa [hc, glue] using ih
        | cons q qs => simp [hc, glue] at ih ⊢; exact ih

/-- The lines of a text: the pieces between its line feeds. -/
def lines (cs : List Char) : List (List Char) :=
  pieces (fun c => c == '\n') cs

/-- The words of a text: the nonempty pieces between its blanks. -/
def words (cs : List Char) : List (List Char) :=
  (pieces isBlank cs).filter (fun w => !w.isEmpty)

/-- The words of a string. -/
def wordsOf (s : String) : List String :=
  (words s.toList).map String.ofList

/-- The lines of a string in ascending order of code points. -/
def sortedLines (s : String) : List String :=
  ((lines s.toList).map String.ofList).mergeSort (fun a b => decide (a ≤ b))

/-- The lines of an input as a reader counts them: a final line feed opens no further line. -/
def inputLines (cs : List Char) : List (List Char) :=
  if cs = [] then [] else
    match (lines cs).getLast? with
    | some [] => (lines cs).dropLast
    | _ => lines cs

/-- Joins strings with a separator. -/
def join (sep : String) (parts : List String) : String :=
  sep.intercalate parts

end EngineTrials.Text
