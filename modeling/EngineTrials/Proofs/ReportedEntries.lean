import EngineTrials.Proofs.CounterHistory
import EngineTrials.Report.Console
import EngineTrials.Trial.Run

/-!
# Reports told by their entries

Outcomes are written one after another, and whether the name of the file stands above an entry
depends on those before it. Told as a whole, a report is a list of entries: the name comes first if
there is an entry and is never written again. What one outcome adds is carried along the outcomes by
induction, for a file that has its name written already as well as for one that has not.
-/
namespace EngineTrials.Report

/-- Failures are reported, and outcomes of any kind to those who want to see them all. -/
def isReportable (options : Options) (o : StageOutcome) : Bool :=
  options.verbose || !o.passed

/-- What is written about an outcome: its stage, a mark, and why it failed if it did. -/
def entry (options : Options) (o : StageOutcome) : String :=
  "└─ " ++ o.stage.name ++ " " ++
    match o.failure with
    | some failure => Style.red.paint options.color "✘" ++ " " ++ failure.message
    | none => Style.green.paint options.color "✓"

/-- An entry for each outcome that is reported, in their order. -/
def entries (options : Options) (os : List StageOutcome) : List String :=
  (os.filter (isReportable options)).map (entry options)

/-- Entries, each with a line feed behind it, below the name of their file. The name is not written
without entries, nor where it is written already. -/
def block (path : Path) (headed : Bool) (entries : List String) : String :=
  (if headed || entries.isEmpty then "" else path.text ++ "\n") ++
    String.join (entries.map (· ++ "\n"))

variable (options : Options) (path : Path)

theorem entry?_eq (o : StageOutcome) :
    entry? options o = if isReportable options o then some (entry options o) else none := by
  cases hfailure : o.failure with
  | some failure =>
    simp [isReportable, StageOutcome.passed, entry?, entry, hfailure, String.append_assoc]
  | none => simp [isReportable, StageOutcome.passed, entry?, entry, hfailure]

theorem entries_cons_of_reportable {o : StageOutcome} (h : isReportable options o = true)
    (rest : List StageOutcome) :
    entries options (o :: rest) = entry options o :: entries options rest := by
  rw [entries, List.filter_cons_of_pos h, List.map_cons, entries]

theorem entries_cons_of_not_reportable {o : StageOutcome} (h : ¬ isReportable options o = true)
    (rest : List StageOutcome) : entries options (o :: rest) = entries options rest := by
  rw [entries, List.filter_cons_of_neg h, entries]

theorem outcome_of_reportable {o : StageOutcome} (h : isReportable options o = true)
    (headed : Bool) :
    outcome options path headed o = (block path headed [entry options o], true) := by
  rw [outcome, entry?_eq, if_pos h]
  simp [block, String.append_assoc]

theorem outcome_of_not_reportable {o : StageOutcome} (h : ¬ isReportable options o = true)
    (headed : Bool) : outcome options path headed o = ("", headed) := by
  rw [outcome, entry?_eq, if_neg h]

theorem block_cons (headed : Bool) (first : String) (rest : List String) :
    block path headed [first] ++ block path true rest = block path headed (first :: rest) := by
  simp [block, String.append_assoc]

theorem outcomes_cons (headed : Bool) (o : StageOutcome) (rest : List StageOutcome) :
    outcomes options path headed (o :: rest) =
      ((outcome options path headed o).1 ++
          (outcomes options path (outcome options path headed o).2 rest).1,
        (outcomes options path (outcome options path headed o).2 rest).2) := rfl

/-- After an entry the name stands above what follows; before the first one it is still to come. -/
theorem outcomes_eq (headed : Bool) (os : List StageOutcome) :
    outcomes options path headed os =
      (block path headed (entries options os), headed || !(entries options os).isEmpty) := by
  induction os generalizing headed with
  | nil => cases headed <;> rfl
  | cons o rest ih =>
    by_cases ho : isReportable options o = true
    · rw [outcomes_cons, outcome_of_reportable options path ho, ih,
        entries_cons_of_reportable options ho]
      exact Prod.ext (block_cons path headed _ _) (Bool.or_true headed).symm
    · rw [outcomes_cons, outcome_of_not_reportable options path ho, ih,
        entries_cons_of_not_reportable options ho, String.empty_append]

/-- All that the outcomes behind need to know of those in front is whether they wrote the name. -/
theorem outcomes_append (headed : Bool) (front back : List StageOutcome) :
    outcomes options path headed (front ++ back) =
      ((outcomes options path headed front).1 ++
          (outcomes options path (outcomes options path headed front).2 back).1,
        (outcomes options path (outcomes options path headed front).2 back).2) := by
  induction front generalizing headed with
  | nil => rw [List.nil_append, outcomes, String.empty_append]
  | cons o rest ih => rw [List.cons_append, outcomes_cons, ih, outcomes_cons, String.append_assoc]

theorem file_eq (os : List StageOutcome) :
    file options path os = block path false (entries options os) := by
  rw [file, outcomes_eq]

theorem block_eq_empty_iff {entries : List String} : block path false entries = "" ↔ entries = [] := by
  cases entries with
  | nil => exact ⟨fun _ => rfl, fun _ => rfl⟩
  | cons first rest => simp [block]

theorem file_eq_empty_iff {os : List StageOutcome} :
    file options path os = "" ↔ ∀ o ∈ os, isReportable options o = false := by
  rw [file_eq, block_eq_empty_iff, entries, List.map_eq_nil_iff, List.filter_eq_nil_iff]
  simp only [Bool.not_eq_true]

theorem length_entries_of_not_verbose {options : Options} (h : options.verbose = false)
    (os : List StageOutcome) : (entries options os).length = os.countP (fun o => !o.passed) := by
  have hfailed : isReportable options = fun o => !o.passed := by
    funext o
    rw [isReportable, h, Bool.false_or]
  rw [entries, List.length_map, hfailed, List.countP_eq_length_filter]

/-- Nothing is written about a file without outcomes to report. About any other its name is written
first, and nowhere else, and then one entry for each of these outcomes in order, with a line feed
behind each. If outcomes are reported in two parts, the second of which knows whether the name was
written in the first, the same is written as for all of them at once. A case that is run with fresh
counters has as many entries, if only failures are reported, as there are failures counted. -/
theorem file_reports_entries (os : List StageOutcome) :
    file options path os = block path false (entries options os) ∧
    (file options path os = "" ↔ ∀ o ∈ os, isReportable options o = false) ∧
    (∀ n,
      let (text, headed) := outcomes options path false (os.take n)
      let (more, _) := outcomes options path headed (os.drop n)
      text ++ more = file options path os) ∧
    ∀ (σ : Type) (t : Trials) (runner : Runner σ) (case : TestCase) (s : Session σ),
      let quiet := { options with verbose := false }
      let (outcomes, counters, _) := t.runCase runner case {} s
      let written := entries quiet outcomes
      file quiet path outcomes = block path false written ∧
        written.length = counters.total.failed := by
  refine ⟨file_eq options path os, file_eq_empty_iff options path, fun n => ?_,
    fun σ t runner case s => ?_⟩
  · have hwhole := outcomes_append options path false (os.take n) (os.drop n)
    rw [List.take_append_drop] at hwhole
    exact (congrArg Prod.fst hwhole).symm
  · intro quiet
    obtain ⟨outcomes, after⟩ := t.runStages runner case.database case.query true case.stages s
    refine ⟨file_eq quiet path _, ?_⟩
    rw [length_entries_of_not_verbose rfl, Counters.total_recordAll, Tally.failed_ofOutcomes]

end EngineTrials.Report
