import EngineTrials.CaseFile.Load
import EngineTrials.Proofs.LoadedCase
import EngineTrials.Proofs.SideBySide
import Mathlib.Algebra.BigOperators.Group.List.Basic
import Mathlib.Algebra.GroupWithZero.Nat

/-!
# The verdict on a run

The verdict is taken from two sums, how many outcomes there were and how many passed. These are
equal only if every outcome passed, so no failure can be hidden by other files; and since every case
that was read from a file declares a stage, no file that was loaded is without a part in them.
-/
namespace EngineTrials

variable {σ : Type}

/-- A case that was run, and its outcomes. -/
structure CaseRun where
  case : TestCase
  outcomes : List StageOutcome

namespace CaseRun

/-- What is counted of it. -/
def records (run : CaseRun) : List Record :=
  run.outcomes.map (⟨·, run.case.required⟩)

theorem map_outcome_flatMap_records (runs : List CaseRun) :
    (runs.flatMap records).map (·.outcome) = runs.flatMap (·.outcomes) := by
  simp [List.map_flatMap, records, Function.comp_def]

theorem ofRequired_flatMap_records (runs : List CaseRun) :
    Record.ofRequired (runs.flatMap records) =
      (runs.filter (·.case.required)).flatMap (·.outcomes) := by
  induction runs with
  | nil => rfl
  | cons run rest ih =>
    rw [List.flatMap_cons, Record.ofRequired_append, ih]
    cases h : run.case.required <;>
      simp [h, Record.ofRequired, records, List.filter_map, Function.comp_def]

/-- All that is counted of runs fulfils `p` if each run does so with its outcomes. -/
theorem forall_mem_records {runs : List CaseRun} {p : Record → Prop} :
    (∀ r ∈ runs.flatMap records, p r) ↔
      ∀ run ∈ runs, ∀ o ∈ run.outcomes, p ⟨o, run.case.required⟩ := by
  constructor
  · intro h run hrun o ho
    exact h _ (List.mem_flatMap_of_mem hrun (List.mem_map_of_mem ho))
  · intro h r hr
    obtain ⟨run, hrun, hr⟩ := List.mem_flatMap.mp hr
    obtain ⟨o, ho, rfl⟩ := List.mem_map.mp hr
    exact h run hrun o ho

theorem length_flatMap_outcomes {runs : List CaseRun}
    (h : ∀ run ∈ runs, run.outcomes.map (·.stage) = run.case.stages.map (·.stage)) :
    (runs.flatMap (·.outcomes)).length =
      ((runs.map (·.case)).map (·.stages.length)).sum := by
  rw [List.length_flatMap, List.map_map]
  refine congrArg List.sum (List.map_congr_left fun run hrun => ?_)
  simpa using congrArg List.length (h run hrun)

end CaseRun

namespace Trials

theorem resolve_stage (t : Trials) (runner : Runner σ) (case : TestCase) (proceed : Bool)
    (spec : StageSpec) (s : Session σ) :
    (t.resolve runner case.database case.query proceed spec s).1.stage = spec.stage := by
  cases proceed with
  | false => rfl
  | true =>
    obtain ⟨outcome, s', hrun, hstage, -⟩ := t.runStage_own runner case spec s
    simp [resolve, hrun, hstage]

/-- There is an outcome for each stage. -/
theorem Yields.stages_eq {t : Trials} {runner : Runner σ} {case : TestCase} {proceed : Bool}
    {specs : List StageSpec} {outcomes : List StageOutcome}
    (h : t.Yields runner case proceed specs outcomes) :
    outcomes.map (·.stage) = specs.map (·.stage) := by
  induction h with
  | nil => rfl
  | cons s now _ ih => rw [List.map_cons, List.map_cons, ih, ← now, resolve_stage]

/-- Reports on files tell of the cases that were run, and their counters hold the outcomes of these
and the number of files that were not loaded. -/
theorem Reports.exists_runs {t : Trials} {runner : Runner σ} {files : List TrialFile}
    {reports : List FileReport} (h : List.Forall₂ (t.Reports runner) files reports)
    (before : List Record) (badFiles : Nat) :
    ∃ runs : List CaseRun,
      runs.map (·.case) = files.filterMap (·.loaded.toOption) ∧
      runs.map (·.outcomes) = reports.filterMap (·.result.toOption) ∧
      (∀ run ∈ runs, t.Yields runner run.case true run.case.stages run.outcomes) ∧
      reports.foldl (fun c r => c.merge r.counters) (Counters.ofRecords before badFiles) =
        Counters.ofRecords (before ++ runs.flatMap CaseRun.records)
          (badFiles + files.countP (·.loaded.toOption.isNone)) := by
  -- a merge puts records behind those that are there, so the ones from before are carried along
  induction h generalizing before badFiles with
  | nil => exact ⟨[], rfl, rfl, nofun, by simp⟩
  | cons hr _ ih =>
    cases hr with
    | malformed hl =>
      obtain ⟨runs, hcases, houtcomes, hyields, htotal⟩ := ih before (badFiles + 1)
      refine ⟨runs, ?_, houtcomes, hyields, ?_⟩
      · rw [hcases, List.filterMap_cons, hl]
        rfl
      · rw [List.foldl_cons, FileReport.counters_ofMalformed, Counters.merge_ofRecords,
          List.append_nil, htotal, List.countP_cons_of_pos (by rw [hl]; rfl), Nat.add_assoc,
          Nat.add_comm 1]
    | @ran case outcomes hl hy =>
      obtain ⟨runs, hcases, houtcomes, hyields, htotal⟩ :=
        ih (before ++ CaseRun.records ⟨case, outcomes⟩) badFiles
      refine ⟨⟨case, outcomes⟩ :: runs, ?_, ?_, List.forall_mem_cons.mpr ⟨hy, hyields⟩, ?_⟩
      · rw [List.map_cons, hcases, List.filterMap_cons, hl]
        rfl
      · rw [List.map_cons, houtcomes]
        rfl
      · rw [List.foldl_cons, FileReport.counters_ofOutcomes, Counters.merge_ofRecords, Nat.add_zero]
        refine htotal.trans ?_
        simp [hl, Except.toOption]

end Trials

namespace CaseFile

/-- A case that was read from a file declares a stage. -/
theorem loadTest_ok_stages {fs : FileSystem} {path : Path} {commands : StageCommands}
    {case : TestCase} (h : loadTest fs path commands = .ok case) : case.stages ≠ [] := by
  unfold loadTest at h
  cases hc : contents fs path with
  | error m =>
    rw [hc] at h
    cases h
  | ok text =>
    rw [hc] at h
    exact (TestFile.parse_ok_iff.mp h).2.nonempty

theorem one_le_stages {commands : StageCommands} {files : List TrialFile}
    (hread : ∀ file ∈ files, ∃ fs, file.loaded = loadTest fs file.path commands) :
    ∀ n ∈ (files.filterMap (·.loaded.toOption)).map (·.stages.length), 1 ≤ n := by
  intro n hn
  obtain ⟨case, hcase, rfl⟩ := List.mem_map.mp hn
  obtain ⟨file, hfile, hloaded⟩ := List.mem_filterMap.mp hcase
  obtain ⟨fs, hfs⟩ := hread file hfile
  cases hok : loadTest fs file.path commands with
  | error m => simp [hfs, hok, Except.toOption] at hloaded
  | ok case' =>
    obtain rfl : case' = case := by simpa [hfs, hok, Except.toOption] using hloaded
    exact List.length_pos_iff.mpr (loadTest_ok_stages hok)

end CaseFile

namespace Pool

/-- Each file that is run has its report. The counters tell how many files could not be loaded, how
many stages the others declare, at least one each, and how many of these passed, in all and of the
required cases. The verdict is good exactly if all that counts for it passed, however many files
could not be loaded. -/
theorem verdict_exact (t : Trials) (runner : Runner σ) (files : List TrialFile)
    (hread : ∀ file ∈ files, ∃ fs, file.loaded = CaseFile.loadTest fs file.path t.commands)
    (jobs : Nat) (s : Session σ) (schedule : List Nat)
    (hdone : ((start jobs files s).run t runner schedule).isComplete) :
    let reports := ((start jobs files s).run t runner schedule).reports
    let counters := FileReport.total reports
    let loaded := files.filterMap (·.loaded.toOption)
    ∃ runs : List CaseRun,
      reports.map (·.path) = files.map (·.path) ∧
      runs.map (·.case) = loaded ∧
      runs.map (·.outcomes) = reports.filterMap (·.result.toOption) ∧
      (∀ run ∈ runs, run.outcomes.map (·.stage) = run.case.stages.map (·.stage)) ∧
      counters.badFiles = files.countP (·.loaded.toOption.isNone) ∧
      counters.total.total = (loaded.map (·.stages.length)).sum ∧
      loaded.length ≤ counters.total.total ∧
      counters.total.passed = (runs.flatMap (·.outcomes)).countP (·.passed) ∧
      counters.required = .ofOutcomes ((runs.filter (·.case.required)).flatMap (·.outcomes)) ∧
      ((Summary.ofCounters counters).succeeded false ↔
        ∀ run ∈ runs, run.case.required → ∀ o ∈ run.outcomes, o.passed) ∧
      ((Summary.ofCounters counters).succeeded true ↔
        ∀ run ∈ runs, ∀ o ∈ run.outcomes, o.passed) := by
  have hreports := reports_of_isComplete t runner jobs files s schedule hdone
  obtain ⟨runs, hcases, houtcomes, hyields, htotal⟩ :=
    Trials.Reports.exists_runs hreports [] 0
  rw [List.nil_append, Nat.zero_add, Counters.ofRecords_nil] at htotal
  have hstages : ∀ run ∈ runs, run.outcomes.map (·.stage) = run.case.stages.map (·.stage) :=
    fun run hrun => (hyields run hrun).stages_eq
  have hlength := CaseRun.length_flatMap_outcomes hstages
  rw [hcases] at hlength
  refine ⟨runs, Trials.Reports.paths_eq hreports, hcases, houtcomes, hstages, ?_⟩
  simp only [FileReport.total, htotal, Counters.total_ofRecords, Counters.required_ofRecords,
    CaseRun.map_outcome_flatMap_records, CaseRun.ofRequired_flatMap_records,
    Counters.succeeded_ofRecords]
  refine ⟨rfl, hlength, ?_, rfl, trivial, ?_, ?_⟩
  · have hmany := List.length_le_sum_of_one_le _ (CaseFile.one_le_stages hread)
    rw [List.length_map] at hmany
    exact hmany.trans_eq hlength.symm
  · simp only [CaseRun.forall_mem_records, Bool.false_eq_true, false_or]
    exact ⟨fun h run hrun hrequired o ho => h run hrun o ho hrequired,
      fun h run hrun o ho hrequired => h run hrun hrequired o ho⟩
  · simp only [CaseRun.forall_mem_records, true_or, forall_const]

/-- An optional case whose second stage fails, and a file that is not there: the verdict is good
unless everything has to pass. -/
theorem verdict_exact_two_files :
    let t : Trials := { commands := { binDir := ⟨"bin"⟩, setups := {} } }
    let text := "description: d\ndb: ours\nquery: q\nrequired: false\n" ++
      "stages:\n  lexer:\n    returncode: 0\n  parser:\n    returncode: 1"
    let fs := (FileSystem.fresh ["work"]).addFile ⟨"a.yml"⟩ (Text.Utf8.encode text.toList) false
    let files : List TrialFile :=
      [⟨"a.yml"⟩, ⟨"b.yml"⟩].map fun path => ⟨path, CaseFile.loadTest fs path t.commands⟩
    let runner : Runner Unit := .ofFunction fun _ => .ok ⟨0, [], [], none⟩
    let pool := (start 2 files ⟨(), []⟩).run t runner [0, 1, 0, 0, 0]
    let counters := FileReport.total pool.reports
    (∀ file ∈ files, ∃ fs, file.loaded = CaseFile.loadTest fs file.path t.commands) ∧
      pool.isComplete ∧ counters.badFiles = 1 ∧ counters.total = ⟨1, 2⟩ ∧
      (Summary.ofCounters counters).succeeded false ∧
      ¬(Summary.ofCounters counters).succeeded true := by
  intro t text fs files runner pool counters
  have hread : ∀ file ∈ files, ∃ fs, file.loaded = CaseFile.loadTest fs file.path t.commands := by
    intro file hfile
    obtain ⟨path, -, rfl⟩ := List.mem_map.mp hfile
    exact ⟨fs, rfl⟩
  obtain ⟨hdone, hmissing, hverdict⟩ :
      pool.isComplete ∧ files.countP (·.loaded.toOption.isNone) = 1 ∧ counters.total = ⟨1, 2⟩ ∧
        (Summary.ofCounters counters).succeeded false ∧
        ¬(Summary.ofCounters counters).succeeded true := by
    decide +kernel
  obtain ⟨_, -, -, -, -, hbad, -⟩ :=
    verdict_exact t runner files hread 2 ⟨(), []⟩ [0, 1, 0, 0, 0] hdone
  exact ⟨hread, hdone, hbad.trans hmissing, hverdict⟩

end Pool

end EngineTrials
