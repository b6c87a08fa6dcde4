import EngineTrials.Config.Settings

/-!
# What each setting comes out as

A setting is taken from its variable, if that is set and not blank, else from the file, else it is
the one built in. Three of the settings can be wrong. A wrong value in the file ends the loading at
once, so that the variables are not even looked at. Wrong variables are all looked at, and the
environment that is handed from one to the next keeps what it has to blame; the values it answers
with do not depend on that.
-/
namespace EngineTrials.Config
open Text

/-- A variable whose value may be of no use. -/
inductive CheckedVariable
  | stageTimeout
  | benchTimeout
  | repetitions
deriving DecidableEq

namespace CheckedVariable

/-- In the order in which they are looked at. -/
def all : List CheckedVariable := [stageTimeout, benchTimeout, repetitions]

/-- The name after the part that all names begin with. -/
def name : CheckedVariable → String
  | stageTimeout => "STAGE_TIMEOUT"
  | benchTimeout => "BENCH_TIMEOUT"
  | repetitions => "REPETITIONS"

/-- Which values are of use: readable durations, and numbers that are allowed. -/
def accepts (value : String) : CheckedVariable → Bool
  | stageTimeout | benchTimeout => (Duration.read? value).isSome
  | repetitions => (word? (trim value)).any fun n => decide (1 ≤ n ∧ n ≤ 1000)

end CheckedVariable

/-- The variable that is to blame. -/
def VariableProblem.variableName : VariableProblem → String
  | invalidValue name _ _ => name
  | invalidDuration name _ => name
  | outOfRange name _ _ _ => name

namespace Environment

/-- The value of a variable that is set and does not hold blanks only. -/
def value? (e : Environment) (name : String) : Option String :=
  (e.values (e.lead ++ name)).filter fun value => !isAllBlank value

/-- Whether a variable has a value that is of no use. -/
def rejects (e : Environment) (x : CheckedVariable) : Bool :=
  (e.value? x.name).any fun value => !x.accepts value

/-- No variable has a value that is of no use. -/
def IsUsable (e : Environment) : Prop :=
  ∀ x : CheckedVariable, ∀ value ∈ e.value? x.name, x.accepts value = true

theorem rejects_eq_false_iff {e : Environment} {x : CheckedVariable} :
    e.rejects x = false ↔ ∀ value ∈ e.value? x.name, x.accepts value = true := by
  rw [rejects]
  cases e.value? x.name <;> simp

theorem isUsable_iff {e : Environment} :
    e.IsUsable ↔ CheckedVariable.all.filter e.rejects = [] := by
  rw [List.filter_eq_nil_iff]
  constructor
  · intro h x _
    rw [rejects_eq_false_iff.mpr (h x)]
    exact Bool.false_ne_true
  · intro h x
    have hmem : x ∈ CheckedVariable.all := by cases x <;> decide
    exact rejects_eq_false_iff.mp (Bool.not_eq_true _ ▸ h x hmem)

theorem IsUsable.repetitions_mem {e : Environment} (h : e.IsUsable) {n : Nat}
    (hn : ((e.value? "REPETITIONS").bind fun value => word? (trim value)) = some n) :
    1 ≤ n ∧ n ≤ 1000 := by
  obtain ⟨value, hvalue, hword⟩ := Option.bind_eq_some_iff.mp hn
  have haccepts : (word? (trim value)).any (fun n => decide (1 ≤ n ∧ n ≤ 1000)) = true :=
    h .repetitions value hvalue
  rw [hword, Option.any_some] at haccepts
  exact of_decide_eq_true haccepts

/-- Of a usable environment, no number of repetitions has to be left out. -/
theorem IsUsable.repetitions_eq {e : Environment} (h : e.IsUsable) :
    (e.value? "REPETITIONS").bind (fun value => (word? (trim value)).filter
      fun n => decide (1 ≤ n ∧ n ≤ 1000)) =
    (e.value? "REPETITIONS").bind fun value => word? (trim value) := by
  cases hvalue : e.value? "REPETITIONS" with
  | none => rw [Option.bind_none, Option.bind_none]
  | some value =>
    rw [Option.bind_some, Option.bind_some]
    cases hword : word? (trim value) with
    | none => rfl
    | some n =>
      have hn : ((e.value? "REPETITIONS").bind fun value => word? (trim value)) = some n := by
        rw [hvalue, Option.bind_some, hword]
      exact Option.filter_some_pos (decide_eq_true (h.repetitions_mem hn))

theorem raw?_eq (e : Environment) (name : String) :
    e.raw? name = (e.value? name).map fun value => (e.lead ++ name, value) := by
  rw [raw?, value?]
  cases e.values (e.lead ++ name) with
  | none => rfl
  | some value =>
    rw [Option.filter_some]
    cases hblank : isAllBlank value <;> simp only [hblank] <;> rfl

theorem path?_eq (e : Environment) (name : String) :
    e.path? name = (e.value? name).map Path.mk := by
  rw [path?, raw?_eq, Option.map_map]
  rfl

/-- What looking at a variable does to the environment: it is blamed if it is to be rejected, and
all values stay as they were. -/
structure LooksAt (x : CheckedVariable) (e e' : Environment) : Prop where
  lead : e'.lead = e.lead
  values : e'.values = e.values
  problems : e'.problems.map (·.variableName) =
    e.problems.map (·.variableName) ++ if e.rejects x then [e.lead ++ x.name] else []

theorem LooksAt.value?_eq {x : CheckedVariable} {e e' : Environment} (h : LooksAt x e e') :
    e'.value? = e.value? := by
  funext name
  rw [value?, value?, h.lead, h.values]

theorem LooksAt.rejects_eq {x : CheckedVariable} {e e' : Environment} (h : LooksAt x e e') :
    e'.rejects = e.rejects := by
  funext y
  rw [rejects, rejects, h.value?_eq]

theorem LooksAt.of_accepted {x : CheckedVariable} {e : Environment} (h : e.rejects x = false) :
    LooksAt x e e where
  lead := rfl
  values := rfl
  problems := by rw [h, if_neg Bool.false_ne_true, List.append_nil]

theorem LooksAt.of_rejected {x : CheckedVariable} {e : Environment} {p : VariableProblem}
    (h : e.rejects x = true) (hp : p.variableName = e.lead ++ x.name) : LooksAt x e (e.note p) where
  lead := rfl
  values := rfl
  problems := by rw [h, if_pos rfl, note, List.map_append, List.map_singleton, hp]

/-- A way to read the value of a variable, given its full name and the value. -/
abbrev Reader (α : Type) := String → String → Except VariableProblem α

/-- The value of a variable as it is read, or one more problem. -/
def consult {α : Type} (e : Environment) (name : String) (read : Reader α) :
    Option α × Environment :=
  match e.value? name with
  | none => (none, e)
  | some value =>
    match read (e.lead ++ name) value with
    | .ok a => (some a, e)
    | .error p => (none, e.note p)

/-- The reader takes what the variable accepts and blames the variable for everything else. -/
def Reads {α : Type} (x : CheckedVariable) (read : Reader α) : Prop :=
  ∀ full value, match read full value with
    | .ok _ => x.accepts value = true
    | .error p => x.accepts value = false ∧ p.variableName = full

theorem consult_looksAt {α : Type} {x : CheckedVariable} {read : Reader α} (h : Reads x read)
    (e : Environment) : LooksAt x e (e.consult x.name read).2 := by
  rw [consult]
  cases hvalue : e.value? x.name with
  | none => exact .of_accepted (by rw [rejects, hvalue, Option.any_none])
  | some value =>
    have hrejects : e.rejects x = !x.accepts value := by rw [rejects, hvalue, Option.any_some]
    have hread := h (e.lead ++ x.name) value
    cases hresult : read (e.lead ++ x.name) value with
    | ok a =>
      simp only [hresult] at hread ⊢
      exact .of_accepted (by rw [hrejects, hread, Bool.not_true])
    | error p =>
      simp only [hresult] at hread ⊢
      exact .of_rejected (by rw [hrejects, hread.1, Bool.not_false]) hread.2

theorem consult_fst {α : Type} (e : Environment) (name : String) (read : Reader α) :
    (e.consult name read).1 =
      (e.value? name).bind fun value => (read (e.lead ++ name) value).toOption := by
  rw [consult]
  cases e.value? name with
  | none => rfl
  | some value =>
    rw [Option.bind_some]
    cases hread : read (e.lead ++ name) value with
    | ok a => simp only [hread]; rfl
    | error p => simp only [hread]; rfl

def readDuration : Reader Duration := fun full value =>
  match Duration.read? value with
  | some d => .ok d
  | none => .error (.invalidDuration full value)

def readRepetitions : Reader Nat := fun full value =>
  match word? (trim value) with
  | none => .error (.invalidValue full "unsigned integer" value)
  | some n =>
    if 1 ≤ n ∧ n ≤ Settings.maxRepetitions then .ok n
    else .error (.outOfRange full n 1 Settings.maxRepetitions)

theorem readDuration_toOption (full value : String) :
    (readDuration full value).toOption = Duration.read? value := by
  rw [readDuration]
  cases Duration.read? value <;> rfl

theorem readRepetitions_toOption (full value : String) :
    (readRepetitions full value).toOption =
      (word? (trim value)).filter fun n => decide (1 ≤ n ∧ n ≤ 1000) := by
  rw [readRepetitions]
  cases word? (trim value) with
  | none => rfl
  | some n =>
    rw [Option.filter_some]
    by_cases hrange : 1 ≤ n ∧ n ≤ Settings.maxRepetitions
    · simp only [if_pos hrange]
      exact (if_pos (decide_eq_true hrange)).symm
    · simp only [if_neg hrange]
      exact (if_neg (ne_true_of_eq_false (decide_eq_false hrange))).symm

theorem duration_eq_consult (e : Environment) (name : String) :
    e.duration name = e.consult name readDuration := by
  rw [duration, raw?_eq, consult]
  cases e.value? name with
  | none => rfl
  | some value =>
    simp only [Option.map_some, readDuration]
    cases Duration.read? value <;> rfl

theorem number_eq_consult (e : Environment) (name : String) :
    e.number name 1 Settings.maxRepetitions = e.consult name readRepetitions := by
  rw [number, raw?_eq, consult]
  cases e.value? name with
  | none => rfl
  | some value =>
    simp only [Option.map_some, readRepetitions]
    cases word? (trim value) with
    | none => rfl
    | some n =>
      by_cases hrange : 1 ≤ n ∧ n ≤ Settings.maxRepetitions
      · simp only [if_pos hrange]
      · simp only [if_neg hrange]

theorem reads_duration {x : CheckedVariable} (hx : x ≠ .repetitions) : Reads x readDuration := by
  intro full value
  have haccepts : x.accepts value = (Duration.read? value).isSome := by
    cases x with
    | repetitions => exact absurd rfl hx
    | _ => rfl
  rw [haccepts, readDuration]
  cases Duration.read? value with
  | some d => rfl
  | none => exact ⟨rfl, rfl⟩

theorem reads_repetitions : Reads .repetitions readRepetitions := by
  intro full value
  rw [readRepetitions, CheckedVariable.accepts]
  cases word? (trim value) with
  | none => exact ⟨rfl, rfl⟩
  | some n =>
    rw [Option.any_some]
    by_cases hrange : 1 ≤ n ∧ n ≤ Settings.maxRepetitions
    · simp only [if_pos hrange]
      exact decide_eq_true hrange
    · simp only [if_neg hrange]
      exact ⟨decide_eq_false hrange, rfl⟩

theorem duration_looksAt (e : Environment) {x : CheckedVariable} (hx : x ≠ .repetitions) :
    LooksAt x e (e.duration x.name).2 := by
  rw [duration_eq_consult]
  exact consult_looksAt (reads_duration hx) e

theorem number_looksAt (e : Environment) :
    LooksAt .repetitions e (e.number "REPETITIONS" 1 Settings.maxRepetitions).2 := by
  rw [number_eq_consult]
  exact consult_looksAt reads_repetitions e

theorem duration_fst (e : Environment) (name : String) :
    (e.duration name).1 = (e.value? name).bind Duration.read? := by
  rw [duration_eq_consult, consult_fst]
  simp only [readDuration_toOption]

theorem number_fst (e : Environment) (name : String) :
    (e.number name 1 Settings.maxRepetitions).1 = (e.value? name).bind fun value =>
      (word? (trim value)).filter fun n => decide (1 ≤ n ∧ n ≤ 1000) := by
  rw [number_eq_consult, consult_fst]
  simp only [readRepetitions_toOption]

/-- The environment after all three variables have been looked at. -/
def checked (e : Environment) : Environment :=
  let e := (e.duration "STAGE_TIMEOUT").2
  let e := (e.duration "BENCH_TIMEOUT").2
  (e.number "REPETITIONS" 1 Settings.maxRepetitions).2

theorem checked_spec (e : Environment) :
    e.checked.value? = e.value? ∧
    e.checked.problems.map (·.variableName) = e.problems.map (·.variableName) ++
      (CheckedVariable.all.filter e.rejects).map fun x => e.lead ++ x.name := by
  let afterStage := (e.duration "STAGE_TIMEOUT").2
  let afterBench := (afterStage.duration "BENCH_TIMEOUT").2
  have hstage : LooksAt .stageTimeout e afterStage := e.duration_looksAt (by decide)
  have hbench : LooksAt .benchTimeout afterStage afterBench :=
    afterStage.duration_looksAt (by decide)
  have hrepetitions : LooksAt .repetitions afterBench e.checked := afterBench.number_looksAt
  constructor
  · rw [hrepetitions.value?_eq, hbench.value?_eq, hstage.value?_eq]
  · rw [hrepetitions.problems, hbench.problems, hstage.problems, hbench.rejects_eq,
      hstage.rejects_eq, hbench.lead, hstage.lead]
    simp only [CheckedVariable.all, List.filter_cons, List.filter_nil]
    cases e.rejects .stageTimeout <;> cases e.rejects .benchTimeout <;>
      cases e.rejects .repetitions <;> simp

end Environment

namespace FileSettings

/-- The values of a file that can be wrong are not. -/
structure IsUsable (f : FileSettings) : Prop where
  stageTimeout : ∀ text ∈ f.stageTimeout, (Duration.read? text).isSome
  benchTimeout : ∀ text ∈ f.benchTimeout, (Duration.read? text).isSome
  repetitions : ∀ n ∈ f.repetitions, 1 ≤ n ∧ n ≤ 1000

/-- An error that says what is wrong with a value of the file. -/
inductive Blames (f : FileSettings) : SettingsError → Prop
  | stageTimeout {text : String} (given : f.stageTimeout = some text)
    (unreadable : Duration.read? text = none) : Blames f (.invalidDuration "stage_timeout" text)
  | benchTimeout {text : String} (given : f.benchTimeout = some text)
    (unreadable : Duration.read? text = none) : Blames f (.invalidDuration "bench_timeout" text)
  | repetitions {n : Nat} (given : f.repetitions = some n)
    (outside : ¬ (1 ≤ n ∧ n ≤ 1000)) :
    Blames f (.invalidValue "repetitions" (count n ++ " is outside 1..=1000"))

theorem Blames.not_isUsable {f : FileSettings} {error : SettingsError} (h : f.Blames error) :
    ¬ f.IsUsable := by
  intro husable
  cases h with
  | stageTimeout given unreadable =>
    have hread := husable.stageTimeout _ given
    rw [unreadable] at hread
    cases hread
  | benchTimeout given unreadable =>
    have hread := husable.benchTimeout _ given
    rw [unreadable] at hread
    cases hread
  | repetitions given outside => exact outside (husable.repetitions _ given)

end FileSettings

namespace Settings

/-- The settings with what a file says in their place. -/
def overlaid (s : Settings) (f : FileSettings) : Settings :=
  { s with
    binDir := f.binDir.getD s.binDir
    benchBinary := f.benchBinary.getD s.benchBinary
    testRoot := f.testRoot.getD s.testRoot
    benchRoot := f.benchRoot.getD s.benchRoot
    fileGlob := f.fileGlob.getD s.fileGlob
    stageTimeout := (f.stageTimeout.bind Duration.read?).getD s.stageTimeout
    benchTimeout := (f.benchTimeout.bind Duration.read?).getD s.benchTimeout
    repetitions := f.repetitions.getD s.repetitions
    csvPath := f.csvPath.getD s.csvPath
    extraArguments := f.extraArguments.getD s.extraArguments
    setups := f.setups.getD s.setups }

theorem fileDuration_cases (key : String) (fallback : Duration) (given : Option String) :
    (∀ text ∈ given, (Duration.read? text).isSome) ∧
      fileDuration key fallback given = .ok ((given.bind Duration.read?).getD fallback) ∨
    ∃ text, given = some text ∧ Duration.read? text = none ∧
      fileDuration key fallback given = .error (.invalidDuration key text) := by
  cases given with
  | none => exact .inl ⟨fun _ h => (Option.not_mem_none _ h).elim, rfl⟩
  | some text =>
    rw [fileDuration, Option.bind_some]
    cases hread : Duration.read? text with
    | some d =>
      refine .inl ⟨fun _ h => ?_, rfl⟩
      rw [← Option.mem_some_iff.mp h, hread]
      rfl
    | none => exact .inr ⟨text, rfl, hread, rfl⟩

theorem fileRepetitions_cases (fallback : Nat) (given : Option Nat) :
    (∀ n ∈ given, 1 ≤ n ∧ n ≤ maxRepetitions) ∧
      fileRepetitions fallback given = .ok (given.getD fallback) ∨
    ∃ n, given = some n ∧ ¬ (1 ≤ n ∧ n ≤ maxRepetitions) ∧
      fileRepetitions fallback given =
        .error (.invalidValue "repetitions" (count n ++ " is outside 1..=1000")) := by
  cases given with
  | none => exact .inl ⟨fun _ h => (Option.not_mem_none _ h).elim, rfl⟩
  | some n =>
    rw [fileRepetitions]
    by_cases hrange : 1 ≤ n ∧ n ≤ maxRepetitions
    · rw [if_pos hrange]
      exact .inl ⟨fun _ h => Option.mem_some_iff.mp h ▸ hrange, rfl⟩
    · have hbound : " is outside 1..=" ++ count maxRepetitions = " is outside 1..=1000" := by
        decide +kernel
      rw [if_neg hrange, String.append_assoc, hbound]
      exact .inr ⟨n, rfl, hrange, rfl⟩

/-- A file is put over the settings, or the first of its values that is wrong ends it. -/
theorem withFile_cases (s : Settings) (f : FileSettings) :
    f.IsUsable ∧ s.withFile f = .ok (s.overlaid f) ∨
    ∃ error, f.Blames error ∧ s.withFile f = .error error := by
  rw [withFile]
  obtain ⟨hstage, hs⟩ | ⟨text, hgiven, hread, hs⟩ :=
    fileDuration_cases "stage_timeout" s.stageTimeout f.stageTimeout
  · obtain ⟨hbench, hb⟩ | ⟨text, hgiven, hread, hb⟩ :=
      fileDuration_cases "bench_timeout" s.benchTimeout f.benchTimeout
    · obtain ⟨hrepetitions, hr⟩ | ⟨n, hgiven, hrange, hr⟩ :=
        fileRepetitions_cases s.repetitions f.repetitions
      · rw [hs, hb, hr]
        exact .inl ⟨⟨hstage, hbench, hrepetitions⟩, rfl⟩
      · rw [hs, hb, hr]
        exact .inr ⟨_, .repetitions hgiven hrange, rfl⟩
    · rw [hs, hb]
      exact .inr ⟨_, .benchTimeout hgiven hread, rfl⟩
  · rw [hs]
    exact .inr ⟨_, .stageTimeout hgiven hread, rfl⟩

/-- The settings with what variables say in their place. -/
def overridden (s : Settings) (e : Environment) : Settings :=
  { s with
    binDir := ((e.value? "BIN_DIR").map Path.mk).getD s.binDir
    benchBinary := ((e.value? "BENCH_BINARY").map Path.mk).getD s.benchBinary
    stageTimeout := ((e.value? "STAGE_TIMEOUT").bind Duration.read?).getD s.stageTimeout
    benchTimeout := ((e.value? "BENCH_TIMEOUT").bind Duration.read?).getD s.benchTimeout
    repetitions :=
      ((e.value? "REPETITIONS").bind fun value => word? (trim value)).getD s.repetitions
    csvPath := ((e.value? "CSV_PATH").map Path.mk).getD s.csvPath }

/-- Only the problems of the environment that all variables have been looked at matter. -/
theorem withEnvironment_eq (s : Settings) (e : Environment) :
    s.withEnvironment e =
      let looked := (e.duration "STAGE_TIMEOUT").2
      if e.checked.problems.isEmpty then .ok { s with
        binDir := (e.checked.path? "BIN_DIR").getD s.binDir
        benchBinary := (e.checked.path? "BENCH_BINARY").getD s.benchBinary
        stageTimeout := (e.duration "STAGE_TIMEOUT").1.getD s.stageTimeout
        benchTimeout := (looked.duration "BENCH_TIMEOUT").1.getD s.benchTimeout
        repetitions := ((looked.duration "BENCH_TIMEOUT").2.number "REPETITIONS" 1
          maxRepetitions).1.getD s.repetitions
        csvPath := (e.checked.path? "CSV_PATH").getD s.csvPath }
      else .error (.environment e.checked.problems) := by
  simp only [withEnvironment, Environment.checked]
  rfl

theorem withEnvironment_of_usable (s : Settings) {e : Environment} (hnew : e.problems = [])
    (h : e.IsUsable) : s.withEnvironment e = .ok (s.overridden e) := by
  obtain ⟨hvalues, hproblems⟩ := e.checked_spec
  have hnone : e.checked.problems = [] := by
    rw [hnew, Environment.isUsable_iff.mp h] at hproblems
    exact List.map_eq_nil_iff.mp hproblems
  have hpath (name : String) : e.checked.path? name = (e.value? name).map Path.mk := by
    rw [Environment.path?_eq, hvalues]
  have hstage : (e.duration "STAGE_TIMEOUT").2.value? = e.value? :=
    (e.duration_looksAt (x := .stageTimeout) (by decide)).value?_eq
  have hbench : ((e.duration "STAGE_TIMEOUT").2.duration "BENCH_TIMEOUT").2.value? = e.value? :=
    ((e.duration "STAGE_TIMEOUT").2.duration_looksAt (x := .benchTimeout)
      (by decide)).value?_eq.trans hstage
  rw [withEnvironment_eq, hnone]
  simp only [hpath, Environment.duration_fst, Environment.number_fst, hstage, hbench,
    h.repetitions_eq]
  rfl

theorem withEnvironment_of_not_usable (s : Settings) {e : Environment} (hnew : e.problems = [])
    (h : ¬ e.IsUsable) : ∃ problems, s.withEnvironment e = .error (.environment problems) ∧
      problems.map (·.variableName) =
        (CheckedVariable.all.filter e.rejects).map fun x => e.lead ++ x.name := by
  have hproblems := e.checked_spec.2
  rw [hnew, List.map_nil, List.nil_append] at hproblems
  have hsome : e.checked.problems.isEmpty = false := by
    rw [List.isEmpty_eq_false_iff]
    intro hnone
    rw [hnone, List.map_nil, eq_comm, List.map_eq_nil_iff] at hproblems
    exact h (Environment.isUsable_iff.mpr hproblems)
  refine ⟨e.checked.problems, ?_, hproblems⟩
  rw [withEnvironment_eq, hsome]
  rfl

/-- What the loading takes from a file: nothing if there is no file to look at. -/
def Finds (s : Settings) (fs : FileSystem) (named : Option Path) (F : Option FileSettings) : Prop :=
  match s.configFile? fs named with
  | none => F = none
  | some path => ∃ f, readFile fs path = .ok f ∧ F = some f

theorem load_eq_layered {fs : FileSystem} {root : Path} {home named : Option Path}
    {F : Option FileSettings} (h : Finds { root, home } fs named F) (e : Environment) :
    load fs root home named e = layered { root, home } F e := by
  rw [Finds] at h
  rw [load]
  cases hpath : configFile? fs { root, home } named with
  | none =>
    simp only [hpath] at h
    rw [h]
    rfl
  | some path =>
    simp only [hpath] at h
    obtain ⟨f, hread, hF⟩ := h
    simp only [hread, hF]
    rfl

theorem exists_finds_of_load {fs : FileSystem} {root : Path} {home named : Option Path}
    {e : Environment} {t : Settings} (ht : load fs root home named e = .ok t) :
    ∃ F, Finds { root, home } fs named F ∧
      ∀ f ∈ F, ∃ path, readFile fs path = .ok f := by
  cases hpath : configFile? fs { root, home } named with
  | none => exact ⟨none, by rw [Finds]; simp only [hpath], fun f hf => nomatch hf⟩
  | some path =>
    cases hread : readFile fs path with
    | error _ =>
      rw [load] at ht
      simp only [hpath, hread] at ht
      cases ht
    | ok f =>
      refine ⟨some f, ?_, fun f' hf' => ⟨path, Option.mem_some_iff.mp hf' ▸ hread⟩⟩
      rw [Finds]
      simp only [hpath]
      exact ⟨f, hread, rfl⟩

theorem layered_cases (s : Settings) (F : Option FileSettings) :
    (∀ f ∈ F, f.IsUsable) ∧
      (∀ e, s.layered F e = (F.elim s s.overlaid).withEnvironment e) ∨
    ∃ f ∈ F, ∃ error, f.Blames error ∧ ∀ e, s.layered F e = .error error := by
  cases F with
  | none => exact .inl ⟨fun _ h => (Option.not_mem_none _ h).elim, fun _ => rfl⟩
  | some f =>
    obtain ⟨husable, hover⟩ | ⟨error, hblames, herror⟩ := s.withFile_cases f
    · refine .inl ⟨fun _ h => Option.mem_some_iff.mp h ▸ husable, fun e => ?_⟩
      rw [layered, hover]
      rfl
    · refine .inr ⟨f, rfl, error, hblames, fun e => ?_⟩
      rw [layered, herror]
      rfl

/-- Each setting for itself: what its variable says, else what the file says, else what is built
in. Some have no variable. -/
def settled (root : Path) (home : Option Path) (F : Option FileSettings) (e : Environment) :
    Settings :=
  let builtin : Settings := { root, home }
  { root
    home
    binDir := ((e.value? "BIN_DIR").map Path.mk).getD
      ((F.bind (·.binDir)).getD builtin.binDir)
    benchBinary := ((e.value? "BENCH_BINARY").map Path.mk).getD
      ((F.bind (·.benchBinary)).getD builtin.benchBinary)
    stageTimeout := ((e.value? "STAGE_TIMEOUT").bind Duration.read?).getD
      (((F.bind (·.stageTimeout)).bind Duration.read?).getD builtin.stageTimeout)
    benchTimeout := ((e.value? "BENCH_TIMEOUT").bind Duration.read?).getD
      (((F.bind (·.benchTimeout)).bind Duration.read?).getD builtin.benchTimeout)
    repetitions := ((e.value? "REPETITIONS").bind fun value => word? (trim value)).getD
      ((F.bind (·.repetitions)).getD builtin.repetitions)
    csvPath := ((e.value? "CSV_PATH").map Path.mk).getD
      ((F.bind (·.csvPath)).getD builtin.csvPath)
    testRoot := (F.bind (·.testRoot)).getD builtin.testRoot
    benchRoot := (F.bind (·.benchRoot)).getD builtin.benchRoot
    fileGlob := (F.bind (·.fileGlob)).getD builtin.fileGlob
    extraArguments := (F.bind (·.extraArguments)).getD builtin.extraArguments
    setups := (F.bind (·.setups)).getD builtin.setups }

theorem overridden_overlaid_eq_settled (root : Path) (home : Option Path) (F : Option FileSettings)
    (e : Environment) :
    (F.elim { root, home } (overlaid { root, home })).overridden e = settled root home F e := by
  cases F <;> rfl

theorem settled_repetitions {F : Option FileSettings} {e : Environment}
    (hF : ∀ f ∈ F, f.IsUsable) (he : e.IsUsable) (root : Path) (home : Option Path) :
    1 ≤ (settled root home F e).repetitions ∧ (settled root home F e).repetitions ≤ 1000 := by
  simp only [settled]
  cases hvalue : (e.value? "REPETITIONS").bind fun value => word? (trim value) with
  | some n => exact he.repetitions_mem hvalue
  | none =>
    cases F with
    | none => exact ⟨by decide, by decide⟩
    | some f =>
      cases hfile : f.repetitions with
      | none => simp [hfile]
      | some n => simpa [hfile] using (hF f rfl).repetitions n hfile

/-- The loading succeeds exactly if nothing in the file and no variable is wrong, and then every
setting comes from the last layer that has it. A wrong value of the file is reported whatever the
variables are; otherwise all wrong variables are reported, in the order in which they are looked
at. -/
theorem load_settles {fs : FileSystem} {root : Path} {home named : Option Path}
    {F : Option FileSettings} (hF : Finds { root, home } fs named F) (lead : String)
    (values : Variables) :
    let e : Environment := { lead, values }
    ((∃ t, load fs root home named e = .ok t) ↔ (∀ f ∈ F, f.IsUsable) ∧ e.IsUsable) ∧
    (∀ t, load fs root home named e = .ok t →
      t = settled root home F e ∧ 1 ≤ t.repetitions ∧ t.repetitions ≤ 1000) ∧
    (∀ f ∈ F, ¬ f.IsUsable →
      ∃ error, f.Blames error ∧ ∀ e', load fs root home named e' = .error error) ∧
    ((∀ f ∈ F, f.IsUsable) → ¬ e.IsUsable →
      ∃ problems, load fs root home named e = .error (.environment problems) ∧
        problems.map (·.variableName) =
          (CheckedVariable.all.filter e.rejects).map fun x => lead ++ x.name) := by
  intro e
  simp only [load_eq_layered hF]
  obtain ⟨hfile, hlayered⟩ | ⟨f, hf, error, hblames, herror⟩ := layered_cases { root, home } F
  · rw [hlayered]
    by_cases he : e.IsUsable
    · rw [withEnvironment_of_usable _ rfl he, overridden_overlaid_eq_settled]
      refine ⟨⟨fun _ => ⟨hfile, he⟩, fun _ => ⟨_, rfl⟩⟩, fun t ht => ?_,
        fun f hf hbad => absurd (hfile f hf) hbad, fun _ hbad => absurd he hbad⟩
      rw [← Except.ok.inj ht]
      exact ⟨rfl, settled_repetitions hfile he root home⟩
    · obtain ⟨problems, hproblems, hnames⟩ :=
        withEnvironment_of_not_usable (F.elim { root, home } (overlaid { root, home })) rfl he
      rw [hproblems]
      refine ⟨⟨fun ⟨_, ht⟩ => (nomatch ht), fun h => absurd h.2 he⟩, fun _ ht => (nomatch ht),
        fun f hf hbad => absurd (hfile f hf) hbad, fun _ _ => ⟨problems, rfl, hnames⟩⟩
  · rw [herror]
    refine ⟨⟨fun ⟨_, ht⟩ => (nomatch ht), fun h => absurd (h.1 f hf) hblames.not_isUsable⟩,
      fun _ ht => (nomatch ht), fun f' hf' _ => ?_, fun h => absurd (h f hf) hblames.not_isUsable⟩
    rw [Option.mem_unique hf' hf]
    exact ⟨error, hblames, herror⟩

/-- The file gives a duration and a number; the number has a variable as well, and another variable
is blank. -/
theorem load_settles_seven_seconds :
    let text := "stage_timeout = \"7s\"\nrepetitions = 3\n"
    let tree := Entries.cons "stagebench.toml" (.file (Utf8.encode text.toList) false) .nil
    let fs : FileSystem := ⟨.directory tree, [], by decide⟩
    let F : FileSettings := { stageTimeout := some "7s", repetitions := some 3 }
    let values : Variables := fun name =>
      if name = "T_REPETITIONS" then some " 20 "
      else if name = "T_BENCH_TIMEOUT" then some "\t"
      else none
    Finds { root := ⟨"/"⟩ } fs none (some F) ∧
    load fs ⟨"/"⟩ none none { lead := "T_", values } =
      .ok { root := ⟨"/"⟩, stageTimeout := .ofSeconds 7, repetitions := 20 } := by
  intro text tree fs F values
  have hpath : configFile? fs { root := ⟨"/"⟩ } none = some ⟨"/stagebench.toml"⟩ := by
    decide +kernel
  have hread : (readFile fs ⟨"/stagebench.toml"⟩).toOption = some F := by decide +kernel
  have hfinds : Finds { root := ⟨"/"⟩ } fs none (some F) := by
    rw [Finds]
    simp only [hpath]
    cases hfile : readFile fs ⟨"/stagebench.toml"⟩ with
    | error _ => rw [hfile] at hread; cases hread
    | ok f => rw [hfile] at hread; cases hread; exact ⟨F, rfl, rfl⟩
  have hfile : ∀ f ∈ some F, f.IsUsable := by
    intro f hf
    rw [← Option.mem_some_iff.mp hf]
    exact ⟨by decide +kernel, by decide +kernel, by decide +kernel⟩
  have hvariables : Environment.IsUsable { lead := "T_", values } :=
    Environment.isUsable_iff.mpr (by decide +kernel)
  have heach : settled ⟨"/"⟩ none (some F) { lead := "T_", values } =
      { root := ⟨"/"⟩, stageTimeout := .ofSeconds 7, repetitions := 20 } := by decide +kernel
  obtain ⟨hsucceeds, hsettled, -⟩ := load_settles hfinds "T_" values
  obtain ⟨t, ht⟩ := hsucceeds.mpr ⟨hfile, hvariables⟩
  refine ⟨hfinds, ?_⟩
  rw [ht, (hsettled t ht).1, heach]

end Settings
end EngineTrials.Config
