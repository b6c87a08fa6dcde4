import EngineTrials.Trial.Counters

/-!
# What counters count

Counting outcomes adds, to each stage, the outcomes of that stage, and to the required tally every
outcome of a required case. `Counted` says so for the counters before and after, in terms of what
can be read off them; together its fields determine the counters after.
-/
namespace EngineTrials

namespace Tally

/-- The tally of some outcomes and of nothing else. -/
def ofOutcomes (outcomes : List StageOutcome) : Tally :=
  ⟨outcomes.countP StageOutcome.passed, outcomes.length⟩

@[simp] theorem ofOutcomes_nil : ofOutcomes [] = {} := rfl

theorem ofOutcomes_append (os more : List StageOutcome) :
    ofOutcomes (os ++ more) = (ofOutcomes os).merge (ofOutcomes more) := by
  simp [ofOutcomes, merge]

theorem record_eq_merge (t : Tally) (o : StageOutcome) :
    t.record o.passed = t.merge (ofOutcomes [o]) := by
  cases h : o.passed <;> simp [record, merge, ofOutcomes, h]

@[simp] theorem merge_empty (t : Tally) : t.merge {} = t := rfl

theorem merge_assoc (a b c : Tally) : (a.merge b).merge c = a.merge (b.merge c) := by
  simp [merge, Nat.add_assoc]

end Tally

namespace Counters

/-- What is known of counters from those before some outcomes of a case were counted. -/
structure Counted (before : Counters) (outcomes : List StageOutcome) (required : Bool)
    (after : Counters) : Prop where
  /-- Each stage has the outcomes of that stage on top of what it had. -/
  stage : ∀ s, after.stage s =
    (before.stage s).merge (.ofOutcomes (outcomes.filter (·.stage = s)))
  /-- A stage is listed from its first outcome on. -/
  listed : ∀ s, (after.tallies.get s).isSome ↔
    (before.tallies.get s).isSome ∨ ∃ o ∈ outcomes, o.stage = s
  required : after.required =
    if required then before.required.merge (.ofOutcomes outcomes) else before.required
  badFiles : after.badFiles = before.badFiles

theorem Counted.refl (c : Counters) (required : Bool) : Counted c [] required c where
  stage := by simp
  listed := by simp
  required := by simp
  badFiles := rfl

theorem Counted.append {a b c : Counters} {os more : List StageOutcome} {required : Bool}
    (h : Counted a os required b) (h' : Counted b more required c) :
    Counted a (os ++ more) required c where
  stage s := by
    rw [h'.stage, h.stage, Tally.merge_assoc, List.filter_append, Tally.ofOutcomes_append]
  listed s := by
    rw [h'.listed, h.listed, or_assoc]
    simp only [List.mem_append, or_and_right, exists_or]
  required := by
    rw [h'.required, h.required]
    cases required with
    | false => rfl
    | true => simp only [↓reduceIte, Tally.merge_assoc, Tally.ofOutcomes_append]
  badFiles := h'.badFiles.trans h.badFiles

theorem stage_record (c : Counters) (o : StageOutcome) (required : Bool) (s : Stage) :
    (c.record o required).stage s =
      if o.stage = s then (c.stage s).record o.passed else c.stage s := by
  simp only [stage, record, PerStage.get_set]
  split
  · next h => simp [h]
  · rfl

/-- One outcome is counted once, under its stage and, if need be, as required. -/
theorem record_counted (c : Counters) (o : StageOutcome) (required : Bool) :
    Counted c [o] required (c.record o required) where
  stage s := by
    rw [stage_record]
    by_cases h : o.stage = s
    · simp [h, Tally.record_eq_merge]
    · simp [h]
  listed s := by
    simp only [record, PerStage.get_set, List.mem_singleton, exists_eq_left]
    by_cases h : o.stage = s <;> simp [h]
  required := by
    cases required with
    | false => rfl
    | true => exact Tally.record_eq_merge c.required o
  badFiles := rfl

/-- A run of outcomes is counted one by one. -/
theorem recordAll_counted (c : Counters) (outcomes : List StageOutcome) (required : Bool) :
    Counted c outcomes required (c.recordAll outcomes required) := by
  induction outcomes generalizing c with
  | nil => exact Counted.refl c required
  | cons o rest ih => exact (record_counted c o required).append (ih (c.record o required))

end Counters

end EngineTrials
