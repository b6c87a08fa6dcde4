import EngineTrials.Proofs.CounterHistory
import EngineTrials.Report.Run
import Mathlib.Data.List.Forall2

/-!
# Files side by side

The workers of a pool make their steps in any order, and the calls of other files come in between
those of a file. What a file can give under such conditions is told by `Yields`, stage by stage and
without the other files. If the engine answers each call by what is asked and by nothing else, only
one report on a file is possible, and the reports of a pool are those of files run one after
another.
-/
namespace EngineTrials

variable {σ : Type}

namespace Trials

/-- Runs the case in a file, with counters of its own. -/
def runFile (t : Trials) (runner : Runner σ) (file : TrialFile) (s : Session σ) :
    FileReport × Session σ :=
  match file.loaded with
  | .error m => (.ofMalformed file.path m, s)
  | .ok case =>
    let (outcomes, counters, s) := t.runCase runner case {} s
    (⟨file.path, .ok outcomes, counters⟩, s)

/-- Runs files one after another. -/
def runFiles (t : Trials) (runner : Runner σ) :
    List TrialFile → Session σ → List FileReport × Session σ
  | [], s => ([], s)
  | file :: rest, s =>
    let (report, s) := t.runFile runner file s
    let (reports, s) := t.runFiles runner rest s
    (report :: reports, s)

/-- Runs files one after another, counts everything in one place, and writes about each file at
once. -/
def runTogether (t : Trials) (runner : Runner σ) (options : Report.Options) (root : Path) :
    List TrialFile → Counters → Session σ → List String × Counters × Session σ
  | [], counters, s => ([], counters, s)
  | file :: rest, counters, s =>
    let shown := root.relativeTo file.path
    match file.loaded with
    | .error m =>
      let (texts, counters, s) := t.runTogether runner options root rest counters.recordBadFile s
      (Report.badFile options shown m.reason :: texts, counters, s)
    | .ok case =>
      let (outcomes, counters, s) := t.runCase runner case counters s
      let (texts, counters, s) := t.runTogether runner options root rest counters s
      (Report.file options shown outcomes :: texts, counters, s)

theorem runFile_error (t : Trials) (runner : Runner σ) {file : TrialFile} {m : MalformedInput}
    (h : file.loaded = .error m) (s : Session σ) :
    t.runFile runner file s = (.ofMalformed file.path m, s) := by
  rw [runFile, h]

theorem runFile_ok (t : Trials) (runner : Runner σ) {file : TrialFile} {case : TestCase}
    (h : file.loaded = .ok case) (s : Session σ) :
    t.runFile runner file s =
      let ran := t.runStages runner case.database case.query true case.stages s
      (.ofOutcomes file.path case ran.1, ran.2) := by
  rw [runFile, h]
  rfl

/-- Outcomes that stages of a case can have. Each stage finds the engine in some session, in which
other files may have called it since the stage before. -/
inductive Yields (t : Trials) (runner : Runner σ) (case : TestCase) :
    Bool → List StageSpec → List StageOutcome → Prop
  | nil {proceed : Bool} : Yields t runner case proceed [] []
  | cons {proceed : Bool} {spec : StageSpec} {rest : List StageSpec} {outcome : StageOutcome}
    {outcomes : List StageOutcome} (s : Session σ)
    (now : (t.resolve runner case.database case.query proceed spec s).1 = outcome)
    (later : Yields t runner case outcome.passed rest outcomes) :
    Yields t runner case proceed (spec :: rest) (outcome :: outcomes)

/-- A report that a file can get. -/
inductive Reports (t : Trials) (runner : Runner σ) (file : TrialFile) : FileReport → Prop
  | malformed {m : MalformedInput} (h : file.loaded = .error m) :
    Reports t runner file (.ofMalformed file.path m)
  | ran {case : TestCase} {outcomes : List StageOutcome} (h : file.loaded = .ok case)
    (yields : t.Yields runner case true case.stages outcomes) :
    Reports t runner file (.ofOutcomes file.path case outcomes)

theorem runStages_yields (t : Trials) (runner : Runner σ) (case : TestCase) (proceed : Bool)
    (specs : List StageSpec) (s : Session σ) :
    t.Yields runner case proceed specs
      (t.runStages runner case.database case.query proceed specs s).1 := by
  induction specs generalizing proceed s with
  | nil => exact .nil
  | cons spec rest ih => exact .cons s rfl (ih _ _)

theorem runFile_reports (t : Trials) (runner : Runner σ) (file : TrialFile) (s : Session σ) :
    t.Reports runner file (t.runFile runner file s).1 := by
  cases h : file.loaded with
  | error m =>
    rw [t.runFile_error runner h]
    exact .malformed h
  | ok case =>
    rw [t.runFile_ok runner h]
    exact .ran h (t.runStages_yields runner case true case.stages s)

theorem Reports.path_eq {t : Trials} {runner : Runner σ} {file : TrialFile} {r : FileReport}
    (h : t.Reports runner file r) : file.path = r.path := by
  cases h <;> rfl

theorem Reports.paths_eq {t : Trials} {runner : Runner σ} {files : List TrialFile}
    {reports : List FileReport} (h : List.Forall₂ (t.Reports runner) files reports) :
    reports.map (·.path) = files.map (·.path) := by
  induction h with
  | nil => rfl
  | cons hr _ ih => rw [List.map_cons, List.map_cons, ih, hr.path_eq]

theorem runFiles_reports (t : Trials) (runner : Runner σ) (files : List TrialFile)
    (s : Session σ) : List.Forall₂ (t.Reports runner) files (t.runFiles runner files s).1 := by
  induction files generalizing s with
  | nil => exact .nil
  | cons file rest ih => exact .cons (t.runFile_reports runner file s) (ih _)

theorem resolve_eq_of_steady {t : Trials} {runner : Runner σ}
    (hsteady : ∀ call st st', (runner call st).1 = (runner call st').1) (db query : String)
    (proceed : Bool) (spec : StageSpec) (s s' : Session σ) :
    (t.resolve runner db query proceed spec s).1 =
      (t.resolve runner db query proceed spec s').1 := by
  cases proceed with
  | false => rfl
  | true =>
    simp only [resolve, ↓reduceIte, runStage]
    cases t.commands.command spec.stage db with
    | error failure => rfl
    | ok line => exact congrArg (outcomeOf spec) (hsteady ⟨line, query, t.timeout⟩ s.state s'.state)

theorem Yields.unique {t : Trials} {runner : Runner σ}
    (hsteady : ∀ call st st', (runner call st).1 = (runner call st').1) {case : TestCase}
    {proceed : Bool} {specs : List StageSpec} {outcomes outcomes' : List StageOutcome}
    (h : t.Yields runner case proceed specs outcomes)
    (h' : t.Yields runner case proceed specs outcomes') : outcomes = outcomes' := by
  induction h generalizing outcomes' with
  | nil =>
    cases h'
    rfl
  | cons s now _ ih =>
    cases h' with
    | cons s' now' later' =>
      obtain rfl := (now.symm.trans (resolve_eq_of_steady hsteady _ _ _ _ s s')).trans now'
      rw [ih later']

theorem Reports.unique {t : Trials} {runner : Runner σ}
    (hsteady : ∀ call st st', (runner call st).1 = (runner call st').1) :
    Relator.RightUnique (t.Reports runner) := by
  rintro file r r' (h | ⟨h, y⟩) (h' | ⟨h', y'⟩)
  · obtain rfl := Except.error.inj (h.symm.trans h')
    rfl
  · cases h.symm.trans h'
  · cases h.symm.trans h'
  · obtain rfl := Except.ok.inj (h.symm.trans h')
    rw [y.unique hsteady y']

end Trials

namespace Pool

open Trials

/-- A worker is on its way to a report that its file can get: what it has done so far can be
completed by whatever the stages left can give. -/
def OnTrack (t : Trials) (runner : Runner σ) (file : TrialFile) : Worker → Prop
  | .waiting => True
  | .running case done rest proceed => file.loaded = .ok case ∧
    ∀ outcomes, t.Yields runner case proceed rest outcomes →
      t.Yields runner case true case.stages (done ++ outcomes)
  | .finished report => t.Reports runner file report

theorem step_onTrack {t : Trials} {runner : Runner σ} {file : TrialFile} {w : Worker}
    (h : OnTrack t runner file w) (room : Bool) (s : Session σ) :
    OnTrack t runner file (step t runner room file w s).1 := by
  cases w with
  | waiting =>
    cases room with
    | false => trivial
    | true =>
      simp only [step, ↓reduceIte]
      cases hl : file.loaded with
      | error m => exact .malformed hl
      | ok case => exact ⟨hl, fun _ hy => hy⟩
  | finished report => exact h
  | running case done rest proceed =>
    obtain ⟨hl, hdone⟩ := h
    cases rest with
    | nil => exact .ran hl (by simpa using hdone [] .nil)
    | cons spec rest =>
      refine ⟨hl, fun outcomes hy => ?_⟩
      rw [List.append_assoc]
      exact hdone _ (.cons s rfl hy)

theorem forall₂_set {α β : Type} {R : α → β → Prop} {as : List α} {bs : List β} {i : Nat} {a : α}
    {b b' : β} (h : List.Forall₂ R as bs) (ha : as[i]? = some a) (hb : bs[i]? = some b)
    (hR : R a b → R a b') : List.Forall₂ R as (bs.set i b') := by
  induction h generalizing i with
  | nil => exact .nil
  | cons hab hrest ih =>
    cases i with
    | zero =>
      obtain rfl := Option.some.inj ha
      obtain rfl := Option.some.inj hb
      exact .cons (hR hab) hrest
    | succ i => exact .cons hab (ih ha hb)

@[simp] theorem advance_jobs (t : Trials) (runner : Runner σ) (p : Pool σ) (i : Nat) :
    (p.advance t runner i).jobs = p.jobs := by
  unfold advance
  split <;> rfl

@[simp] theorem advance_files (t : Trials) (runner : Runner σ) (p : Pool σ) (i : Nat) :
    (p.advance t runner i).files = p.files := by
  unfold advance
  split <;> rfl

theorem advance_onTrack {t : Trials} {runner : Runner σ} {p : Pool σ}
    (h : List.Forall₂ (OnTrack t runner) p.files p.workers) (i : Nat) :
    List.Forall₂ (OnTrack t runner) p.files (p.advance t runner i).workers := by
  unfold advance
  split
  · next file w hfile hw => exact forall₂_set h hfile hw fun hw => step_onTrack hw _ _
  · exact h

theorem run_cons (t : Trials) (runner : Runner σ) (i : Nat) (rest : List Nat) (p : Pool σ) :
    p.run t runner (i :: rest) = (p.advance t runner i).run t runner rest := rfl

theorem run_append (t : Trials) (runner : Runner σ) (first rest : List Nat) (p : Pool σ) :
    p.run t runner (first ++ rest) = (p.run t runner first).run t runner rest :=
  List.foldl_append

@[simp] theorem run_jobs (t : Trials) (runner : Runner σ) (schedule : List Nat) (p : Pool σ) :
    (p.run t runner schedule).jobs = p.jobs := by
  induction schedule generalizing p with
  | nil => rfl
  | cons i rest ih => rw [run_cons, ih, advance_jobs]

@[simp] theorem run_files (t : Trials) (runner : Runner σ) (schedule : List Nat) (p : Pool σ) :
    (p.run t runner schedule).files = p.files := by
  induction schedule generalizing p with
  | nil => rfl
  | cons i rest ih => rw [run_cons, ih, advance_files]

theorem run_onTrack {t : Trials} {runner : Runner σ} {p : Pool σ}
    (h : List.Forall₂ (OnTrack t runner) p.files p.workers) (schedule : List Nat) :
    List.Forall₂ (OnTrack t runner) p.files (p.run t runner schedule).workers := by
  induction schedule generalizing p with
  | nil => exact h
  | cons i rest ih =>
    have hstep := advance_onTrack h i
    rw [← advance_files t runner p i] at hstep ⊢
    exact ih hstep

theorem start_onTrack (t : Trials) (runner : Runner σ) (jobs : Nat) (files : List TrialFile)
    (s : Session σ) :
    List.Forall₂ (OnTrack t runner) (start jobs files s).files (start jobs files s).workers := by
  simp only [start]
  induction files with
  | nil => exact .nil
  | cons file rest ih => exact .cons trivial ih

/-- When every worker has finished, each file has a report, in the order of the files. -/
theorem reports_of_isComplete (t : Trials) (runner : Runner σ) (jobs : Nat)
    (files : List TrialFile) (s : Session σ) (schedule : List Nat)
    (h : ((start jobs files s).run t runner schedule).isComplete) :
    List.Forall₂ (t.Reports runner) files ((start jobs files s).run t runner schedule).reports := by
  have hall := run_onTrack (start_onTrack t runner jobs files s) schedule
  simp only [isComplete, reports] at h ⊢
  generalize ((start jobs files s).run t runner schedule).workers = workers at h hall ⊢
  simp only [start] at hall
  induction hall with
  | nil => exact .nil
  | @cons file w files ws hw hrest ih =>
    simp only [List.all_cons, Bool.and_eq_true] at h
    cases w with
    | finished r => exact .cons hw (ih h.2)
    | waiting => simp [Worker.report?] at h
    | running => simp [Worker.report?] at h

theorem advance_at (t : Trials) (runner : Runner σ) (jobs : Nat) (file : TrialFile) (w : Worker)
    {before : List TrialFile} {past : List Worker} (after : List TrialFile) (next : List Worker)
    (s : Session σ) {i : Nat} (hbefore : before.length = i) (hpast : past.length = i) :
    advance t runner ⟨jobs, before ++ file :: after, past ++ w :: next, s⟩ i =
      let now := step t runner ((past ++ w :: next).countP Worker.isRunning < jobs) file w s
      ⟨jobs, before ++ file :: after, past ++ now.1 :: next, now.2⟩ := by
  subst hbefore
  simp [advance, active, hpast]

/-- A worker that goes on alone runs the stages it has left. -/
theorem run_running (t : Trials) (runner : Runner σ) (jobs : Nat) (file : TrialFile)
    (case : TestCase) (done : List StageOutcome) (rest : List StageSpec) (proceed : Bool)
    {before : List TrialFile} {past : List Worker} (after : List TrialFile) (next : List Worker)
    (s : Session σ) {i : Nat} (hbefore : before.length = i) (hpast : past.length = i) :
    run t runner (List.replicate (rest.length + 1) i)
        ⟨jobs, before ++ file :: after, past ++ .running case done rest proceed :: next, s⟩ =
      let ran := t.runStages runner case.database case.query proceed rest s
      ⟨jobs, before ++ file :: after,
        past ++ .finished (.ofOutcomes file.path case (done ++ ran.1)) :: next, ran.2⟩ := by
  induction rest generalizing done proceed s with
  | nil =>
    rw [List.length_nil, List.replicate_succ, run_cons,
      advance_at t runner jobs file _ after next s hbefore hpast]
    simp [step, runStages, run]
  | cons spec rest ih =>
    obtain ⟨outcome, s₁, hnow⟩ : ∃ outcome s₁,
        t.resolve runner case.database case.query proceed spec s = (outcome, s₁) := ⟨_, _, rfl⟩
    have hfirst := advance_at t runner jobs file (.running case done (spec :: rest) proceed) after
      next s hbefore hpast
    simp only [step, hnow] at hfirst
    rw [List.length_cons, List.replicate_succ, run_cons, hfirst, ih]
    simp [runStages, hnow]

/-- A worker that is started where nobody runs, and goes on alone, runs its file. -/
theorem run_waiting (t : Trials) (runner : Runner σ) {jobs : Nat} (hjobs : 1 ≤ jobs)
    (file : TrialFile) {before : List TrialFile} {past : List Worker} (after : List TrialFile)
    {next : List Worker} (s : Session σ) {i : Nat} (hbefore : before.length = i)
    (hpast : past.length = i) (hidle : (past ++ .waiting :: next).countP Worker.isRunning = 0) :
    run t runner (List.replicate (stepsFor file) i)
        ⟨jobs, before ++ file :: after, past ++ .waiting :: next, s⟩ =
      let ran := t.runFile runner file s
      ⟨jobs, before ++ file :: after, past ++ .finished ran.1 :: next, ran.2⟩ := by
  have hroom : 0 < jobs := hjobs
  have hfirst := advance_at t runner jobs file .waiting after next s hbefore hpast
  cases h : file.loaded with
  | error m =>
    simp only [hidle, hroom, step, h, decide_true, ↓reduceIte] at hfirst
    simp only [stepsFor, h, List.replicate_succ, run_cons, hfirst, t.runFile_error runner h]
    rfl
  | ok case =>
    simp only [hidle, hroom, step, h, decide_true, ↓reduceIte] at hfirst
    simp only [stepsFor, h]
    rw [List.replicate_succ, run_cons, hfirst,
      run_running t runner jobs file case [] case.stages true after next s hbefore hpast,
      t.runFile_ok runner h]
    rfl

theorem run_oneByOne_from (t : Trials) (runner : Runner σ) {jobs : Nat} (hjobs : 1 ≤ jobs)
    (files before : List TrialFile) (past : List FileReport) (s : Session σ)
    (hlength : past.length = before.length) :
    run t runner ((files.zipIdx before.length).flatMap fun (file, i) =>
          List.replicate (stepsFor file) i)
        ⟨jobs, before ++ files, past.map .finished ++ files.map fun _ => .waiting, s⟩ =
      let ran := t.runFiles runner files s
      ⟨jobs, before ++ files, (past ++ ran.1).map .finished, ran.2⟩ := by
  -- on the files left: those before them have finished, so nobody runs and there is room
  induction files generalizing before past s with
  | nil => simp [run, runFiles]
  | cons file rest ih =>
    have hidle : (past.map Worker.finished ++
        .waiting :: rest.map fun _ => Worker.waiting).countP Worker.isRunning = 0 := by
      simp [Worker.isRunning, List.countP_eq_zero]
    have hfirst := run_waiting t runner hjobs file rest s (Eq.refl before.length)
      (by rw [List.length_map, hlength]) hidle
    have hrest := ih (before ++ [file]) (past ++ [(t.runFile runner file s).1])
      (t.runFile runner file s).2 (by simp [hlength])
    simp only [List.length_append, List.length_singleton, List.map_append, List.map_singleton,
      List.append_assoc, List.singleton_append] at hrest
    simp only [List.zipIdx_cons, List.flatMap_cons, run_append, List.map_cons, hfirst, hrest]
    simp [runFiles]

/-- Run one by one, all files get their reports. -/
theorem run_oneByOne (t : Trials) (runner : Runner σ) {jobs : Nat} (hjobs : 1 ≤ jobs)
    (files : List TrialFile) (s : Session σ) :
    (start jobs files s).run t runner (oneByOne files) =
      ⟨jobs, files, (t.runFiles runner files s).1.map .finished, (t.runFiles runner files s).2⟩ :=
  run_oneByOne_from t runner hjobs files [] [] s rfl

/-- A worker that runs can finish alone, and so can one that waits where nobody runs. -/
theorem exists_finish (t : Trials) (runner : Runner σ) {jobs : Nat} (hjobs : 1 ≤ jobs)
    (file : TrialFile) {w : Worker} {before : List TrialFile} {past : List Worker}
    (after : List TrialFile) {next : List Worker} (s : Session σ)
    (hlength : before.length = past.length) (hopen : w.report?.isNone)
    (hfree : w.isRunning ∨ (past ++ w :: next).countP Worker.isRunning = 0) :
    ∃ first report s', run t runner first ⟨jobs, before ++ file :: after, past ++ w :: next, s⟩ =
      ⟨jobs, before ++ file :: after, past ++ .finished report :: next, s'⟩ := by
  cases w with
  | finished report => simp [Worker.report?] at hopen
  | running case done rest proceed =>
    exact ⟨_, _, _, run_running t runner jobs file case done rest proceed after next s hlength rfl⟩
  | waiting =>
    have hidle := hfree.resolve_left (by simp [Worker.isRunning])
    exact ⟨_, _, _, run_waiting t runner hjobs file after s hlength rfl hidle⟩

/-- As long as not all have finished there is a worker that need not wait: one that runs or, when
nobody runs, one that is next. -/
theorem exists_free (workers : List Worker) (h : 0 < workers.countP fun w => w.report?.isNone) :
    ∃ w ∈ workers, w.report?.isNone ∧ (w.isRunning ∨ workers.countP Worker.isRunning = 0) := by
  by_cases hidle : workers.countP Worker.isRunning = 0
  · obtain ⟨w, hw, hopen⟩ := List.countP_pos_iff.mp h
    exact ⟨w, hw, hopen, .inr hidle⟩
  · obtain ⟨w, hw, hrunning⟩ := List.countP_pos_iff.mp (Nat.pos_of_ne_zero hidle)
    refine ⟨w, hw, ?_, .inl hrunning⟩
    cases w with
    | waiting => cases hrunning
    | running => rfl
    | finished => cases hrunning

/-- Whatever was done so far, the workers can go on until all have finished. -/
theorem exists_completion (t : Trials) (runner : Runner σ) (p : Pool σ) (hjobs : 1 ≤ p.jobs)
    (hlength : p.files.length = p.workers.length) : ∃ more, (p.run t runner more).isComplete := by
  -- on the number of workers that have not finished
  induction hn : p.workers.countP (fun w => w.report?.isNone) generalizing p with
  | zero =>
    refine ⟨[], List.all_eq_true.mpr fun w hw => ?_⟩
    have := List.countP_eq_zero.mp hn w hw
    simpa [Option.isSome_iff_ne_none] using this
  | succ n ih =>
    obtain ⟨w, hw, hopen, hfree⟩ := exists_free p.workers (by omega)
    obtain ⟨jobs, files, workers, s⟩ := p
    obtain ⟨past, next, rfl⟩ := List.append_of_mem hw
    have hlt : past.length < files.length := by simp_all
    obtain ⟨before, file, after, rfl, hbefore⟩ : ∃ before file after,
        files = before ++ file :: after ∧ before.length = past.length :=
      ⟨files.take past.length, files[past.length], files.drop (past.length + 1),
        by rw [← List.drop_eq_getElem_cons hlt, List.take_append_drop],
        List.length_take_of_le (Nat.le_of_lt hlt)⟩
    obtain ⟨first, report, s', hfirst⟩ :=
      exists_finish t runner hjobs file after s hbefore hopen hfree
    have hfewer : (past ++ .finished report :: next).countP (fun w => w.report?.isNone) = n := by
      have hdone : (Worker.finished report).report?.isNone = false := rfl
      simp only [List.countP_append, List.countP_cons, hopen, hdone] at hn ⊢
      simp only [↓reduceIte, Bool.false_eq_true] at hn ⊢
      omega
    obtain ⟨more, hmore⟩ := ih ⟨jobs, before ++ file :: after, past ++ .finished report :: next, s'⟩
      hjobs (by simpa using hlength) hfewer
    exact ⟨first ++ more, by rw [run_append, hfirst]; exact hmore⟩

end Pool

namespace FileReport

theorem counters_ofMalformed (path : Path) (m : MalformedInput) :
    (ofMalformed path m).counters = .ofRecords [] 1 := rfl

theorem counters_ofOutcomes (path : Path) (case : TestCase) (outcomes : List StageOutcome) :
    (ofOutcomes path case outcomes).counters =
      .ofRecords (outcomes.map (⟨·, case.required⟩)) 0 :=
  Counters.recordAll_ofRecords [] 0 outcomes case.required

end FileReport

namespace Trials

/-- Counting in one place gives what merging counters of each file gives. -/
theorem runTogether_eq (t : Trials) (runner : Runner σ) (options : Report.Options) (root : Path)
    (files : List TrialFile) (records : List Record) (badFiles : Nat) (s : Session σ) :
    t.runTogether runner options root files (.ofRecords records badFiles) s =
      let ran := t.runFiles runner files s
      (ran.1.map (Report.fileReport options root),
        ran.1.foldl (fun c r => c.merge r.counters) (.ofRecords records badFiles), ran.2) := by
  induction files generalizing records badFiles s with
  | nil => rfl
  | cons file rest ih =>
    cases h : file.loaded with
    | error m =>
      simp only [runTogether, h, Counters.recordBadFile_ofRecords, ih, runFiles,
        t.runFile_error runner h, List.map_cons, List.foldl_cons, FileReport.counters_ofMalformed,
        Counters.merge_ofRecords, List.append_nil]
      rfl
    | ok case =>
      simp only [runTogether, h, runCase, Counters.recordAll_ofRecords, ih, runFiles,
        t.runFile_ok runner h, List.map_cons, List.foldl_cons, FileReport.counters_ofOutcomes,
        Counters.merge_ofRecords, Nat.add_zero]
      rfl

end Trials

namespace Pool

/-- The workers of a pool can always go on until all have finished, and one file after another is a
way to do so. Whatever way they take, if the engine answers by the call alone, the reports are those
of files run one after another, in the order of the files, and so are the texts, the counters, the
summary and the verdict; and they are what is found when everything is counted in one place. -/
theorem run_unaffected_by_schedule (t : Trials) (runner : Runner σ)
    (hsteady : ∀ call st st', (runner call st).1 = (runner call st').1) (files : List TrialFile)
    (jobs : Nat) (hjobs : 1 ≤ jobs) (s s' : Session σ) (options : Report.Options) (root : Path)
    (all : Bool) :
    ((start jobs files s).run t runner (oneByOne files)).isComplete ∧
    (∀ schedule, ∃ more, ((start jobs files s).run t runner (schedule ++ more)).isComplete) ∧
    ∀ schedule, ((start jobs files s).run t runner schedule).isComplete →
      let reports := ((start jobs files s).run t runner schedule).reports
      let inTurn := (t.runFiles runner files s').1
      let (texts, counters, _) := t.runTogether runner options root files {} s'
      reports = inTurn ∧ reports.map (·.path) = files.map (·.path) ∧
      Report.run options root all reports = Report.run options root all inTurn ∧
      FileReport.total reports = counters ∧
      Report.run options root all reports =
        ⟨texts, .ofCounters counters, (Summary.ofCounters counters).succeeded all⟩ := by
  refine ⟨?_, fun schedule => ?_, fun schedule hdone => ?_⟩
  · simp [run_oneByOne t runner hjobs files s, isComplete, Worker.report?]
  · have hlength := (run_onTrack (start_onTrack t runner jobs files s) schedule).length_eq
    obtain ⟨more, hmore⟩ := exists_completion t runner ((start jobs files s).run t runner schedule)
      (by rw [run_jobs]; exact hjobs) (by rwa [run_files])
    exact ⟨more, by rwa [run_append]⟩
  · have hany := reports_of_isComplete t runner jobs files s schedule hdone
    have hinTurn := t.runFiles_reports runner files s'
    have heq := List.right_unique_forall₂' (Trials.Reports.unique hsteady) hany hinTurn
    have htogether := t.runTogether_eq runner options root files [] 0 s'
    simp only [Counters.ofRecords_nil] at htogether
    simp only [htogether, heq]
    exact ⟨trivial, Trials.Reports.paths_eq hinTurn, trivial, rfl, rfl⟩

/-- Three files in two jobs, where the last starts first, the second has to wait for room, and the
engine fails on one query and counts its calls. -/
theorem run_unaffected_by_schedule_two_jobs :
    let t : Trials := { commands := { binDir := ⟨"bin"⟩, setups := {} } }
    let runner : Runner Nat := fun call calls =>
      (if call.input = "bad" then .error (.io "broken") else .ok ⟨0, [], [], none⟩, calls + 1)
    let bad : TestCase := ⟨⟨"a.yml"⟩, "", "ours", "bad", true, [⟨.lexer, {}⟩, ⟨.parser, {}⟩]⟩
    let good : TestCase := ⟨⟨"c.yml"⟩, "", "ours", "good", false, [⟨.lexer, {}⟩]⟩
    let files : List TrialFile :=
      [⟨bad.path, .ok bad⟩, ⟨⟨"b.yml"⟩, .error ⟨⟨"b.yml"⟩, "syntax"⟩⟩, ⟨good.path, .ok good⟩]
    let pool := (start 2 files ⟨0, []⟩).run t runner [2, 0, 1, 0, 2, 2, 1, 0, 0]
    (∀ call st st', (runner call st).1 = (runner call st').1) ∧ 1 ≤ 2 ∧ pool.isComplete ∧
      pool.reports = (t.runFiles runner files ⟨0, []⟩).1 ∧
      FileReport.total pool.reports = (t.runTogether runner {} ⟨"."⟩ files {} ⟨0, []⟩).2.1 := by
  intro t runner bad good files pool
  have hsteady : ∀ call st st', (runner call st).1 = (runner call st').1 := fun _ _ _ => rfl
  have hdone : pool.isComplete := by decide
  obtain ⟨-, -, hall⟩ := run_unaffected_by_schedule t runner hsteady files 2 (by decide) ⟨0, []⟩
    ⟨0, []⟩ {} ⟨"."⟩ false
  obtain ⟨hreports, -, -, htotal, -⟩ := hall [2, 0, 1, 0, 2, 2, 1, 0, 0] hdone
  exact ⟨hsteady, by decide, hdone, hreports, htotal⟩

end Pool

end EngineTrials
