import EngineTrials.Benchmark.Timing
import EngineTrials.Proofs.Lines

/-!
# Samples on request

A request for a sample passes over words that are no numbers and over lines that are not selected,
and stops somewhere within a line. What it is about is the list of samples that are left: a request
hands out its head, if it has one, and leaves a state in which its tail is left. Everything about a
series of requests follows from this, also that there is nothing more to come after a request that
gave nothing.
-/
namespace EngineTrials
open Text

/-- A search for a pattern: where in a line its leftmost match begins and ends, if there is one. -/
abbrev Search := List Char → Option (Nat × Nat)

namespace Search

/-- Whether the leftmost match begins where the line begins. -/
def selects (find : Search) (line : List Char) : Bool :=
  (find line).any fun m => m.1 == 0

/-- The numbers among the words of those lines that have a match at their start, in order. -/
def numbers (find : Search) (output : List Char) : List Binary64 :=
  (output.splitOn '\n').flatMap fun line =>
    match find line with
    | some (0, _) => ((line.splitOnP isBlank).filter fun w => !w.isEmpty).filterMap Binary64.read?
    | _ => []

theorem lineSamples_selects (find : Search) (line : List Char) :
    lineSamples find.selects line =
      match find line with
      | some (0, _) => ((line.splitOnP isBlank).filter fun w => !w.isEmpty).filterMap Binary64.read?
      | _ => [] := by
  rw [lineSamples, words, pieces_eq_splitOnP, selects]
  rcases find line with _ | ⟨_ | first, last⟩ <;> rfl

theorem samples_selects (find : Search) (output : List Char) :
    samples find.selects output = find.numbers output := by
  rw [samples, lines, pieces_eq_splitOnP, ← List.splitOn_eq_splitOnP, numbers,
    funext find.lineSamples_selects]

end Search

/-- A line feed keeps the last line before it and the first line after it apart. -/
theorem lines_append (a b : List Char) : lines (a ++ '\n' :: b) = lines a ++ lines b := by
  simp only [lines, pieces_eq_splitOnP]
  exact List.splitOnP_append_cons a b rfl

theorem samples_append (selects : List Char → Bool) (a b : List Char) :
    samples selects (a ++ '\n' :: b) = samples selects a ++ samples selects b := by
  rw [samples, lines_append, List.flatMap_append, samples, samples]

namespace Timings

variable (selects : List Char → Bool)

theorem remaining_start (output : List Char) :
    (start output).remaining selects = samples selects output := rfl

/-- The words passed over are no numbers. -/
theorem filterMap_firstSample (tokens : List (List Char)) :
    tokens.filterMap Binary64.read? =
      match firstSample tokens with
      | some (x, rest) => x :: rest.filterMap Binary64.read?
      | none => [] := by
  induction tokens with
  | nil => rfl
  | cons t ts ih =>
    cases hread : Binary64.read? t with
    | some x => simp only [firstSample, hread, List.filterMap_cons_some hread]
    | none => simp only [firstSample, hread, List.filterMap_cons_none hread, ih]

theorem head?_nextFrom (lines : List (List Char)) :
    (nextFrom selects lines).1 = (lines.flatMap (lineSamples selects)).head? ∧
    (nextFrom selects lines).2.remaining selects =
      (lines.flatMap (lineSamples selects)).tail := by
  induction lines with
  | nil => exact ⟨rfl, rfl⟩
  | cons line rest ih =>
    have hline := filterMap_firstSample (if selects line then words line else [])
    have hsamples : lineSamples selects line =
        (if selects line then words line else []).filterMap Binary64.read? := by
      rw [lineSamples]
      split <;> rfl
    rw [List.flatMap_cons, hsamples, hline, nextFrom]
    cases firstSample (if selects line then words line else []) with
    | some found => exact ⟨rfl, rfl⟩
    | none => exact ih

/-- A request hands out the first of the samples that are left and leaves the others. -/
theorem next_remaining (t : Timings) :
    (t.next selects).1 = (t.remaining selects).head? ∧
    (t.next selects).2.remaining selects = (t.remaining selects).tail := by
  have htokens := filterMap_firstSample t.tokens
  rw [remaining, htokens, next]
  cases firstSample t.tokens with
  | some found => exact ⟨rfl, rfl⟩
  | none => exact head?_nextFrom selects t.lines

/-- What is left to be read after so many requests. -/
def after : Nat → Timings → Timings
  | 0, t => t
  | k + 1, t => after k (t.next selects).2

/-- The answer to the request that comes after `k` others. -/
def answer (k : Nat) (t : Timings) : Option Binary64 :=
  ((t.after selects k).next selects).1

theorem remaining_after (k : Nat) (t : Timings) :
    (t.after selects k).remaining selects = (t.remaining selects).drop k := by
  induction k generalizing t with
  | zero => rfl
  | succ k ih => rw [after, ih, (t.next_remaining selects).2, List.drop_tail]

theorem answer_eq (k : Nat) (t : Timings) :
    t.answer selects k = (t.remaining selects)[k]? := by
  rw [answer, (next_remaining selects _).1, remaining_after, List.head?_drop]

theorem take_eq (k : Nat) (t : Timings) :
    t.take selects k = ((t.remaining selects).take k, t.after selects k) := by
  induction k generalizing t with
  | zero => rfl
  | succ k ih =>
    obtain ⟨hhead, htail⟩ := t.next_remaining selects
    rw [take, after]
    cases hnext : t.next selects with
    | mk found next =>
      rw [hnext] at hhead htail
      cases hleft : t.remaining selects with
      | nil =>
        rw [hleft] at hhead htail
        obtain rfl : found = none := hhead
        simp only [ih, htail, List.tail_nil, List.take_nil]
      | cons x xs =>
        rw [hleft] at hhead htail
        obtain rfl : found = some x := hhead
        simp only [ih, htail, List.tail_cons, List.take_succ_cons]

/-- The requests made of an output are answered by the numbers on its selected lines, one after
another, and then by nothing for good. So many requests take so many of the numbers off the front
and leave the others to the requests that follow. Two outputs with a line feed between them are
answered by the numbers of the first and then by those of the second. -/
theorem requests_answered_in_order (find : Search) (output : List Char) :
    let t := start output
    let expected := find.numbers output
    (∀ k, t.answer find.selects k = expected[k]?) ∧
    (∀ k i, (t.after find.selects k).answer find.selects i = (expected.drop k)[i]?) ∧
    (∀ k, t.answer find.selects k = none → ∀ i, k ≤ i → t.answer find.selects i = none) ∧
    (∀ k, t.take find.selects k = (expected.take k, t.after find.selects k) ∧
      (t.after find.selects k).remaining find.selects = expected.drop k) ∧
    samples find.selects output = expected ∧
    ∀ a b k, (start (a ++ '\n' :: b)).answer find.selects k =
      (find.numbers a ++ find.numbers b)[k]? := by
  intro t expected
  have hleft : t.remaining find.selects = expected := find.samples_selects output
  have hanswer : ∀ k, t.answer find.selects k = expected[k]? := by
    intro k
    rw [answer_eq, hleft]
  refine ⟨hanswer, ?_, ?_, ?_, find.samples_selects output, ?_⟩
  · intro k i
    rw [answer_eq, remaining_after, hleft]
  · intro k hnone i hki
    rw [hanswer, List.getElem?_eq_none_iff] at hnone ⊢
    exact Nat.le_trans hnone hki
  · intro k
    rw [take_eq, remaining_after, hleft]
    exact ⟨rfl, rfl⟩
  · intro a b k
    rw [answer_eq, remaining_start, samples_append, find.samples_selects, find.samples_selects]

end Timings

end EngineTrials
