import EngineTrials.Proofs.QueryLines
import EngineTrials.Proofs.Words
import EngineTrials.Report.Benchmark

/-!
# Queries in one line

A query is normalised by cutting the blanks off its ends and writing a space for each line feed that
is left. No space can come to stand at an end this way, since the characters there are no blanks, so
a normalised query has nothing left to cut off or to replace. It has the words that it had, and it
does not matter to what the engine is sent, nor to what is reported, whether a query was normalised
before.
-/
namespace EngineTrials.Query
open Text

/-- What is written for a character that was not cut off. -/
def inLine (c : Char) : Char := if c = '\n' then ' ' else c

theorem normalizeChars_eq (q : List Char) : normalizeChars q = (trimBlank q).map inLine := rfl

theorem inLine_of_ne {c : Char} (h : c ≠ '\n') : inLine c = c := if_neg h

theorem isBlank_inLine (c : Char) : isBlank (inLine c) = isBlank c := by
  by_cases hfeed : c = '\n'
  · rw [hfeed]
    rfl
  · rw [inLine_of_ne hfeed]

theorem inLine_of_not_isBlank {c : Char} (h : isBlank c = false) : inLine c = c := by
  apply inLine_of_ne
  rintro rfl
  exact absurd isBlank_newline (ne_true_of_eq_false h)

theorem isTrimmed_normalizeChars (q : List Char) : IsTrimmed (normalizeChars q) :=
  (isTrimmed_trimBlank q).map isBlank_inLine

theorem words_normalizeChars (q : List Char) : words (normalizeChars q) = words q := by
  rw [normalizeChars_eq, words_map isBlank_inLine fun c hc => inLine_of_not_isBlank hc,
    words_trimBlank]

/-- One line without blanks at its ends is left as it is. -/
theorem normalizeChars_of_isTrimmed {q : List Char} (h : IsTrimmed q) (hfeed : '\n' ∉ q) :
    normalizeChars q = q := by
  rw [normalizeChars_eq, trimBlank_of_isTrimmed h]
  calc
    q.map inLine = q.map id :=
      List.map_congr_left fun c hc => inLine_of_ne fun heq => hfeed (heq ▸ hc)
    _ = q := List.map_id q

theorem normalizeChars_normalizeChars (q : List Char) :
    normalizeChars (normalizeChars q) = normalizeChars q :=
  normalizeChars_of_isTrimmed (isTrimmed_normalizeChars q) (newline_not_mem_normalizeChars q)

@[simp] theorem toList_normalize (q : String) : (normalize q).toList = normalizeChars q.toList :=
  String.toList_ofList

theorem normalize_normalize (q : String) : normalize (normalize q) = normalize q := by
  rw [normalize, toList_normalize, normalizeChars_normalizeChars, normalize]

theorem input_normalize (q : String) (n : Nat) : input (normalize q) n = input q n := by
  rw [input, toList_normalize, normalizeChars_normalizeChars, input]

/-- A normalised query is one line, has no white space at its ends and consists of the same words as
the query, in the same order. To normalise it once more changes nothing. So the query that a report
on a failure shows is one for which the engine would have been sent the same, however often it was
to be repeated, and which would have been reported the same. -/
theorem normalize_keeps_words (q : String) :
    '\n' ∉ (normalize q).toList ∧
    IsTrimmed (normalize q).toList ∧
    wordsOf (normalize q) = wordsOf q ∧
    normalize (normalize q) = normalize q ∧
    (∀ n, input (normalize q) n = input q n) ∧
    ∀ file name command failure,
      Report.caseFailure file ⟨⟨name, normalize q⟩, command, failure⟩ =
        Report.caseFailure file ⟨⟨name, q⟩, command, failure⟩ := by
  refine ⟨?_, ?_, ?_, normalize_normalize q, input_normalize q, ?_⟩
  · rw [toList_normalize]
    exact newline_not_mem_normalizeChars q.toList
  · rw [toList_normalize]
    exact isTrimmed_normalizeChars q.toList
  · rw [wordsOf, toList_normalize, words_normalizeChars, wordsOf]
  · intro file name command failure
    rw [Report.caseFailure, normalize_normalize, Report.caseFailure]

end EngineTrials.Query
