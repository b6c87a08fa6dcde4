import EngineTrials.Proofs.Counting
import EngineTrials.Report.Summary

/-!
# How counters come about

Counters start empty; outcomes are recorded in them, files that could not be loaded are counted, and
other counters are merged into them. Whatever was done to them, they are a function of the records
made on the way and of the number of bad files: a merge puts the records of both one behind the
other. What can be relied on is then read off the records.
-/
namespace EngineTrials

namespace Tally

theorem failed_ofOutcomes (os : List StageOutcome) :
    (ofOutcomes os).failed = os.countP (fun o => !o.passed) := by
  have h := List.length_eq_countP_add_countP StageOutcome.passed (l := os)
  simp only [failed, ofOutcomes]
  simp only [Bool.not_eq_true, Bool.decide_eq_false] at h
  omega

theorem allPassed_ofOutcomes (os : List StageOutcome) :
    (ofOutcomes os).allPassed ↔ ∀ o ∈ os, o.passed := by
  simp [allPassed, ofOutcomes, List.countP_eq_length]

/-- The tally of a stage, which is listed from its first outcome on. -/
def listed? (os : List StageOutcome) : Option Tally :=
  if os.isEmpty then none else some (ofOutcomes os)

theorem getD_listed? (os : List StageOutcome) : (listed? os).getD {} = ofOutcomes os := by
  cases os <;> rfl

end Tally

theorem PerStage.get_mk {α : Type} (f : Stage → α) (s : Stage) :
    (PerStage.mk (f .lexer) (f .parser) (f .sema) (f .end2end)).get s = f s := by
  cases s <;> rfl

/-- One outcome as it is counted. -/
structure Record where
  outcome : StageOutcome
  required : Bool
deriving DecidableEq, Inhabited

namespace Record

/-- The outcomes of a stage among some records. -/
def ofStage (s : Stage) (records : List Record) : List StageOutcome :=
  (records.map (·.outcome)).filter (·.stage = s)

theorem ofStage_append (s : Stage) (records more : List Record) :
    ofStage s (records ++ more) = ofStage s records ++ ofStage s more := by
  simp [ofStage]

/-- The outcomes of required cases among some records. -/
def ofRequired (records : List Record) : List StageOutcome :=
  (records.filter (·.required)).map (·.outcome)

theorem ofRequired_append (records more : List Record) :
    ofRequired (records ++ more) = ofRequired records ++ ofRequired more := by
  simp [ofRequired]

end Record

namespace Counters

/-- The counters in which these records were made, and so many bad files counted. -/
def ofRecords (records : List Record) (badFiles : Nat) : Counters where
  tallies :=
    let listed (s : Stage) := Tally.listed? (Record.ofStage s records)
    ⟨listed .lexer, listed .parser, listed .sema, listed .end2end⟩
  required := .ofOutcomes (Record.ofRequired records)
  badFiles

theorem get_tallies_ofRecords (records : List Record) (badFiles : Nat) (s : Stage) :
    (ofRecords records badFiles).tallies.get s = Tally.listed? (Record.ofStage s records) :=
  PerStage.get_mk (fun s => Tally.listed? (Record.ofStage s records)) s

theorem ext_get {ν : Type} {a b : Counters ν} (tallies : ∀ s, a.tallies.get s = b.tallies.get s)
    (required : a.required = b.required) (badFiles : a.badFiles = b.badFiles) : a = b := by
  cases a
  cases b
  simp only [mk.injEq]
  exact ⟨PerStage.ext tallies, required, badFiles⟩

theorem ofRecords_nil : ofRecords [] 0 = {} := rfl

theorem recordBadFile_ofRecords (records : List Record) (badFiles : Nat) :
    (ofRecords records badFiles).recordBadFile = ofRecords records (badFiles + 1) := rfl

theorem mergeTallies_listed? (os more : List StageOutcome) :
    mergeTallies (Tally.listed? os) (Tally.listed? more) = Tally.listed? (os ++ more) := by
  cases os with
  | nil => rfl
  | cons o os =>
    cases more with
    | nil => simp [Tally.listed?, mergeTallies]
    | cons o' more =>
      simpa [Tally.listed?, mergeTallies] using
        (Tally.ofOutcomes_append (o :: os) (o' :: more)).symm

theorem merge_ofRecords (records more : List Record) (badFiles further : Nat) :
    (ofRecords records badFiles).merge (ofRecords more further) =
      ofRecords (records ++ more) (badFiles + further) := by
  refine ext_get (fun s => ?_) ?_ rfl
  · simp only [merge, PerStage.get_zipWith, get_tallies_ofRecords, mergeTallies_listed?,
      Record.ofStage_append]
  · simp only [merge, ofRecords, Record.ofRequired_append, Tally.ofOutcomes_append]

/-- One record is the same as a merge with the counters of this record alone. -/
theorem record_ofRecords (records : List Record) (badFiles : Nat) (o : StageOutcome)
    (required : Bool) :
    (ofRecords records badFiles).record o required =
      ofRecords (records ++ [⟨o, required⟩]) badFiles := by
  refine ext_get (fun s => ?_) ?_ rfl
  · rw [get_tallies_ofRecords, Record.ofStage_append]
    simp only [record, PerStage.get_set, get_tallies_ofRecords, Tally.getD_listed?]
    by_cases h : o.stage = s
    · subst h
      rw [if_pos rfl, Tally.record_eq_merge, ← Tally.ofOutcomes_append]
      simp [Record.ofStage, Tally.listed?]
    · simp [h, Record.ofStage]
  · cases required with
    | false => simp [record, ofRecords, Record.ofRequired]
    | true =>
      simp [record, ofRecords, Record.ofRequired, Tally.record_eq_merge, Tally.ofOutcomes_append]

theorem recordAll_ofRecords (records : List Record) (badFiles : Nat) (os : List StageOutcome)
    (required : Bool) :
    (ofRecords records badFiles).recordAll os required =
      ofRecords (records ++ os.map (⟨·, required⟩)) badFiles := by
  induction os generalizing records with
  | nil => simp [recordAll]
  | cons o rest ih =>
    rw [List.map_cons, List.append_cons, ← ih, ← record_ofRecords]
    rfl

/-- A stage that is not listed adds nothing. -/
theorem total_eq_foldl (c : Counters) :
    c.total = Stage.all.foldl (fun sum s => sum.merge (c.stage s)) {} := by
  rw [total, stages, List.foldl_filterMap]
  congr 1
  funext sum s
  cases h : c.tallies.get s <;> simp [stage, h]

theorem stage_ofRecords (records : List Record) (badFiles : Nat) (s : Stage) :
    (ofRecords records badFiles).stage s = .ofOutcomes (Record.ofStage s records) := by
  rw [stage, get_tallies_ofRecords, Tally.getD_listed?]

/-- Every outcome is one of exactly one stage. -/
theorem foldl_filter_stage (os : List StageOutcome) :
    Stage.all.foldl (fun sum s => sum.merge (.ofOutcomes (os.filter (·.stage = s)))) {} =
      Tally.ofOutcomes os := by
  induction os with
  | nil => rfl
  | cons o rest ih =>
    simp only [Tally.ofOutcomes, Tally.merge, Stage.all, List.foldl_cons, List.foldl_nil,
      Tally.mk.injEq] at ih ⊢
    cases hp : o.passed <;> cases hs : o.stage <;> simp [hp, hs] <;> omega

theorem total_ofRecords (records : List Record) (badFiles : Nat) :
    (ofRecords records badFiles).total = .ofOutcomes (records.map (·.outcome)) := by
  simp only [total_eq_foldl, stage_ofRecords, Record.ofStage, foldl_filter_stage]

/-- Where nothing was counted before, the total is that of the outcomes counted. -/
theorem total_recordAll (os : List StageOutcome) (required : Bool) :
    (({} : Counters).recordAll os required).total = .ofOutcomes os := by
  have houtcomes : (os.map (Record.mk · required)).map (·.outcome) = os := by
    rw [List.map_map]
    exact List.map_id os
  rw [← ofRecords_nil, recordAll_ofRecords, total_ofRecords, List.nil_append, houtcomes]

@[simp] theorem required_ofRecords (records : List Record) (badFiles : Nat) :
    (ofRecords records badFiles).required = .ofOutcomes (Record.ofRequired records) := rfl

theorem mem_stages_iff {ν : Type} {c : Counters ν} {s : Stage} {t : Tally ν} :
    (s, t) ∈ c.stages ↔ c.tallies.get s = some t := by
  simp only [stages, List.mem_filterMap, Option.map_eq_some_iff, Prod.mk.injEq]
  constructor
  · rintro ⟨_, -, _, h, rfl, rfl⟩
    exact h
  · intro h
    exact ⟨s, Stage.mem_all s, t, h, rfl, rfl⟩

/-- Stages are listed at the place they have among all stages. -/
theorem map_fst_stages {ν : Type} (c : Counters ν) :
    c.stages.map Prod.fst = Stage.all.filter fun s => (c.tallies.get s).isSome := by
  rw [stages, List.map_filterMap, ← List.filterMap_eq_filter]
  congr 1
  funext s
  cases h : c.tallies.get s <;> simp [h, Option.guard]

/-- The verdict is good if every outcome that counts for it passed. -/
theorem succeeded_ofRecords {records : List Record} {badFiles : Nat} {all : Bool} :
    (Summary.ofCounters (ofRecords records badFiles)).succeeded all ↔
      ∀ r ∈ records, all ∨ r.required → r.outcome.passed := by
  cases all with
  | false =>
    simp only [Summary.succeeded, Summary.ofCounters, Bool.false_eq_true, ↓reduceIte, false_or,
      required_ofRecords, Tally.allPassed_ofOutcomes, Record.ofRequired, List.forall_mem_map,
      List.mem_filter, and_imp]
  | true =>
    simp only [Summary.succeeded, Summary.ofCounters, ↓reduceIte, true_or, forall_const,
      total_ofRecords, Tally.allPassed_ofOutcomes, List.forall_mem_map]

/-- What was done to counters since they were empty. Those that are merged in have a history of
their own. -/
inductive History
  | empty
  | record (before : History) (record : Record)
  | badFile (before : History)
  | merge (before other : History)

namespace History

/-- The counters that a history leads to. -/
def counters (ν : Type) [Add ν] [OfNat ν 0] [OfNat ν 1] : History → Counters ν
  | empty => {}
  | record before r => (before.counters ν).record r.outcome r.required
  | badFile before => (before.counters ν).recordBadFile
  | merge before other => (before.counters ν).merge (other.counters ν)

/-- All records made, in the counters themselves or in those merged in. -/
def records : History → List Record
  | empty => []
  | record before r => before.records ++ [r]
  | badFile before => before.records
  | merge before other => before.records ++ other.records

def badFiles : History → Nat
  | empty => 0
  | record before _ => before.badFiles
  | badFile before => before.badFiles + 1
  | merge before other => before.badFiles + other.badFiles

end History

end Counters

end EngineTrials
