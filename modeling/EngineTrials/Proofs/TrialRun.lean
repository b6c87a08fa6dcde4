import EngineTrials.Proofs.Counting
import EngineTrials.Proofs.StageCheck
import EngineTrials.Trial.Run

/-!
# How far a case gets

The stages of a case are run up to the first that fails. `ReachesTo` says what outcomes look like
that get as far as one of them, and `callOf?` which call a stage makes of the engine; a run is then
told by a single number, whatever the engine answers.
-/
namespace EngineTrials

/-- Outcomes of stages in order, of which number `k` is the first that failed; all of them passed if
there is no such number. -/
structure ReachesTo (outcomes : List StageOutcome) (k : Nat) : Prop where
  le : k ≤ outcomes.length
  passed : ∀ o ∈ outcomes.take k, o.passed
  failed : ∀ o ∈ outcomes[k]?, ∃ failure, o.failure = some failure ∧ failure ≠ .earlierStageFailed
  skipped : ∀ o ∈ outcomes.drop (k + 1), o.failure = some .earlierStageFailed

namespace ReachesTo

theorem nil : ReachesTo [] 0 := ⟨Nat.le_refl 0, by simp, by simp, by simp⟩

theorem cons_passed {o : StageOutcome} {outcomes : List StageOutcome} {k : Nat} (ho : o.passed)
    (h : ReachesTo outcomes k) : ReachesTo (o :: outcomes) (k + 1) where
  le := Nat.succ_le_succ h.le
  passed := by
    simp only [List.take_succ_cons, List.mem_cons, forall_eq_or_imp]
    exact ⟨ho, h.passed⟩
  failed := by simpa using h.failed
  skipped := by simpa using h.skipped

theorem cons_failed {o : StageOutcome} {outcomes : List StageOutcome} {failure : StageFailure}
    (ho : o.failure = some failure) (hf : failure ≠ .earlierStageFailed)
    (h : ∀ o ∈ outcomes, o.failure = some .earlierStageFailed) : ReachesTo (o :: outcomes) 0 where
  le := Nat.zero_le _
  passed := by simp
  failed := by simpa [ho] using hf
  skipped := by simpa using h

end ReachesTo

namespace StageCommands

/-- The command line of a stage: the program of its entry point, then its fixed arguments, the setup
file if it needs one, the extra arguments and a dash. -/
structure IsLine (c : StageCommands) (stage : Stage) (db : String) (line : Command) : Prop where
  program : line.program = c.binDir.join ⟨stage.entryPoint⟩
  arguments : ∃ setup, line.arguments =
      stage.fixedArguments ++ setup ++ c.extraArguments ++ ["-"] ∧
    if stage.needsSetup then ∃ path, c.setups.find? db = some path ∧ setup = [path.text]
    else setup = []

theorem command_ok {c : StageCommands} {stage : Stage} {db : String} {line : Command}
    (h : c.command stage db = .ok line) : c.IsLine stage db line := by
  simp only [command] at h
  by_cases hs : stage.needsSetup
  · rw [if_pos hs] at h
    cases hp : c.setups.find? db with
    | none => simp [hp] at h
    | some path =>
      simp only [hp, Except.ok.injEq] at h
      subst h
      exact ⟨rfl, [path.text], rfl, by rw [if_pos hs]; exact ⟨path, hp, rfl⟩⟩
  · rw [if_neg hs, Except.ok.injEq] at h
    subst h
    exact ⟨rfl, [], rfl, by simp [hs]⟩

/-- A command line can be built unless a setup is needed and there is none. -/
theorem command_error {c : StageCommands} {stage : Stage} {db : String} {failure : StageFailure}
    (h : c.command stage db = .error failure) : failure = .process (missingSetupMessage db) := by
  simp only [command] at h
  by_cases hs : stage.needsSetup
  · rw [if_pos hs] at h
    cases hp : c.setups.find? db with
    | none => simpa [hp] using h.symm
    | some path => simp [hp] at h
  · simp [hs] at h

theorem exists_command {c : StageCommands} {stage : Stage} {db : String}
    (h : stage.needsSetup = false ∨ c.hasSetup db) : ∃ line, c.command stage db = .ok line := by
  cases hc : c.command stage db with
  | ok line => exact ⟨line, rfl⟩
  | error failure =>
    simp only [command] at hc
    rcases h with hfree | hset
    · simp [hfree] at hc
    · obtain ⟨path, hp⟩ := Option.isSome_iff_exists.mp hset
      rw [hp] at hc
      split at hc <;> cases hc

end StageCommands

namespace Trials

variable {σ : Type}

/-- The call that a stage of a case makes of the engine, if its command line can be built. -/
def callOf? (t : Trials) (case : TestCase) (spec : StageSpec) : Option Call :=
  (t.commands.command spec.stage case.database).toOption.map fun line =>
    ⟨line, case.query, t.timeout⟩

/-- A call as it has to be: the command line of the stage, the query of the case as input, and the
configured limit. -/
structure IsCallOf (t : Trials) (case : TestCase) (spec : StageSpec) (call : Call) : Prop where
  line : t.commands.IsLine spec.stage case.database call.command
  input : call.input = case.query
  timeout : call.timeout = t.timeout

theorem callOf?_eq_some {t : Trials} {case : TestCase} {spec : StageSpec} {call : Call}
    (h : t.callOf? case spec = some call) : t.IsCallOf case spec call := by
  simp only [callOf?, Option.map_eq_some_iff] at h
  obtain ⟨line, hline, rfl⟩ := h
  refine ⟨StageCommands.command_ok ?_, rfl, rfl⟩
  cases hc : t.commands.command spec.stage case.database with
  | error f => simp [hc, Except.toOption] at hline
  | ok l =>
    rw [hc] at hline
    exact congrArg Except.ok (Option.some.inj hline)

/-- The outcome of a call is one of its own stage: a pass, an error of the engine, or the failure of
a check. -/
theorem outcomeOf_cases (spec : StageSpec) (answer : Except EngineError Capture) :
    (outcomeOf spec answer).stage = spec.stage ∧
      ∀ f ∈ (outcomeOf spec answer).failure, (∃ limit, f = .timeout limit) ∨
        (∃ e : EngineError, f = .process e.message) ∨ Expectation.checkOrder f < 6 := by
  cases answer with
  | error e =>
    cases e with
    | timeout limit => exact ⟨rfl, fun f hf => .inl ⟨limit, (Option.some.inj hf).symm⟩⟩
    | launch program cause =>
      exact ⟨rfl, fun f hf => .inr (.inl ⟨.launch program cause, (Option.some.inj hf).symm⟩)⟩
    | input cause =>
      exact ⟨rfl, fun f hf => .inr (.inl ⟨.input cause, (Option.some.inj hf).symm⟩)⟩
    | io cause => exact ⟨rfl, fun f hf => .inr (.inl ⟨.io cause, (Option.some.inj hf).symm⟩)⟩
  | ok capture =>
    simp only [outcomeOf]
    cases hc : spec.expectation.check capture with
    | ok => simp
    | error failure => simpa using .inr (.inr (Expectation.checkOrder_lt hc))

/-- No earlier stage is blamed for it. -/
theorem outcomeOf_ne_earlier (spec : StageSpec) (answer : Except EngineError Capture) :
    (outcomeOf spec answer).failure ≠ some .earlierStageFailed := by
  intro h
  obtain ⟨limit, hf⟩ | ⟨e, hf⟩ | hf := (outcomeOf_cases spec answer).2 _ h
  · cases hf
  · cases hf
  · simp [Expectation.checkOrder] at hf

/-- A stage that is run makes its call, if there is one to make. -/
theorem runStage_own (t : Trials) (runner : Runner σ) (case : TestCase) (spec : StageSpec)
    (s : Session σ) :
    ∃ outcome s', t.runStage runner case.database case.query spec s = (outcome, s') ∧
      outcome.stage = spec.stage ∧ outcome.failure ≠ some .earlierStageFailed ∧
      s'.calls = s.calls ++ (t.callOf? case spec).toList := by
  refine ⟨_, _, rfl, ?_⟩
  simp only [callOf?]
  cases hc : t.commands.command spec.stage case.database with
  | error failure =>
    rw [StageCommands.command_error hc]
    simp [Except.toOption]
  | ok line =>
    let answer := (runner ⟨line, case.query, t.timeout⟩ s.state).1
    exact ⟨(outcomeOf_cases spec answer).1, outcomeOf_ne_earlier spec answer, rfl⟩

theorem runStages_skipping (t : Trials) (runner : Runner σ) (database query : String)
    (specs : List StageSpec) (s : Session σ) :
    t.runStages runner database query false specs s =
      (specs.map fun spec => .skipped spec.stage, s) := by
  induction specs with
  | nil => rfl
  | cons spec rest ih => simp [runStages, resolve, StageOutcome.passed, StageOutcome.skipped, ih]

theorem filterMap_callOf?_cons (t : Trials) (case : TestCase) (spec : StageSpec)
    (rest : List StageSpec) :
    (spec :: rest).filterMap (t.callOf? case) =
      (t.callOf? case spec).toList ++ rest.filterMap (t.callOf? case) := by
  cases h : t.callOf? case spec <;> simp [h]

/-- Stages are run up to the first that fails, and the calls are theirs. -/
theorem runStages_reach (t : Trials) (runner : Runner σ) (case : TestCase)
    (specs : List StageSpec) (s : Session σ) :
    ∃ outcomes s', t.runStages runner case.database case.query true specs s = (outcomes, s') ∧
      outcomes.map (·.stage) = specs.map (·.stage) ∧
      ∃ k, ReachesTo outcomes k ∧
        s'.calls = s.calls ++ (specs.take (k + 1)).filterMap (t.callOf? case) := by
  induction specs generalizing s with
  | nil => exact ⟨[], s, rfl, rfl, 0, .nil, by simp⟩
  | cons spec rest ih =>
    obtain ⟨outcome, s₁, hrun, hstage, hfailure, hcalls⟩ := t.runStage_own runner case spec s
    cases ho : outcome.passed with
    | true =>
      obtain ⟨outcomes, s₂, hrest, hstages, k, hreach, hlog⟩ := ih s₁
      refine ⟨outcome :: outcomes, s₂, ?_, by simp [hstage, hstages], k + 1,
        .cons_passed ho hreach, ?_⟩
      · simp [runStages, resolve, hrun, ho, hrest]
      · rw [hlog, hcalls, List.append_assoc, List.take_succ_cons, filterMap_callOf?_cons]
    | false =>
      obtain ⟨failure, hf⟩ : ∃ failure, outcome.failure = some failure := by
        simpa [StageOutcome.passed, Option.isSome_iff_exists] using ho
      refine ⟨outcome :: rest.map fun spec => .skipped spec.stage, s₁, ?_, ?_, 0,
        .cons_failed hf ?_ ?_, ?_⟩
      · simp [runStages, resolve, hrun, ho, runStages_skipping]
      · simp [hstage, StageOutcome.skipped, Function.comp_def]
      · rintro rfl
        exact hfailure hf
      · simp [StageOutcome.skipped]
      · rw [hcalls, List.take_succ_cons, List.take_zero, filterMap_callOf?_cons,
          List.filterMap_nil, List.append_nil]

/-- A case has an outcome for each of its stages. They pass up to some stage, which fails; the calls
made of the engine are those of the stages up to that one, and every later stage is skipped. Each
outcome is counted once. -/
theorem runCase_stops_at_failure (t : Trials) (runner : Runner σ) (case : TestCase)
    (counters : Counters) (s : Session σ) :
    ∃ outcomes after s', t.runCase runner case counters s = (outcomes, after, s') ∧
      outcomes.map (·.stage) = case.stages.map (·.stage) ∧
      (∃ k, ReachesTo outcomes k ∧
        s'.calls = s.calls ++ (case.stages.take (k + 1)).filterMap (t.callOf? case)) ∧
      (∀ spec ∈ case.stages, ∀ call ∈ t.callOf? case spec, t.IsCallOf case spec call) ∧
      counters.Counted outcomes case.required after := by
  obtain ⟨outcomes, s', hrun, hstages, hreach⟩ := t.runStages_reach runner case case.stages s
  refine ⟨outcomes, counters.recordAll outcomes case.required, s', ?_, hstages, hreach, ?_, ?_⟩
  · rw [runCase, hrun]
  · exact fun spec _ call hcall => callOf?_eq_some hcall
  · exact Counters.recordAll_counted counters outcomes case.required

end Trials

end EngineTrials
