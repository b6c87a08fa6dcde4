import EngineTrials.Benchmark.Run

/-!
# Benchmark runs, turn by turn

A run of a benchmark file is cut into turns, one for each case. A turn keeps the call that was made
for its case, so that the command that a failure is reported with can be compared with the one that
was called. A case can fail because the engine takes too long, cannot be started or has something
to complain about; the next turn begins where it ended all the same.
-/
namespace EngineTrials

variable {σ : Type}

/-- A case that had its turn: the call that was made for it, and what it gave. -/
structure BenchmarkTurn where
  case : BenchmarkCase
  call : Call
  result : Except BenchmarkFailure (List Binary64)

namespace BenchmarkTurn

/-- A record for each sample, if there are samples. -/
def records (file : BenchmarkFile) (date : Date) (turn : BenchmarkTurn) : List BenchmarkRecord :=
  match turn.result with
  | .ok times =>
    times.map fun time => ⟨date, file.suite, file.benchmark, file.name, turn.case.name, time⟩
  | .error _ => []

/-- The failure, if there is one, with the command that was called. -/
def failure? (turn : BenchmarkTurn) : Option CaseFailure :=
  match turn.result with
  | .ok _ => none
  | .error failure => some ⟨turn.case, turn.call.command, failure⟩

/-- A case gives its samples and no failure, or one failure and no samples. -/
theorem records_or_failure (file : BenchmarkFile) (date : Date) (turn : BenchmarkTurn) :
    (∃ times, turn.result = .ok times ∧ turn.failure? = none ∧ turn.records file date =
      times.map fun time => ⟨date, file.suite, file.benchmark, file.name, turn.case.name, time⟩) ∨
    ∃ failure, turn.result = .error failure ∧ turn.records file date = [] ∧
      turn.failure? = some ⟨turn.case, turn.call.command, failure⟩ := by
  obtain ⟨case, call, result⟩ := turn
  cases result with
  | ok times => exact .inl ⟨times, rfl, rfl, rfl⟩
  | error failure => exact .inr ⟨failure, rfl, rfl, rfl⟩

theorem command_of_failure? {turn : BenchmarkTurn} {failure : CaseFailure}
    (h : turn.failure? = some failure) : failure.command = turn.call.command := by
  obtain ⟨case, call, result⟩ := turn
  cases result with
  | ok times => cases h
  | error cause =>
    cases h
    rfl

end BenchmarkTurn

namespace Benchmarks

/-- The one call of the engine that a case needs. -/
def callFor (b : Benchmarks) (file : BenchmarkFile) (case : BenchmarkCase) : Call :=
  ⟨b.invocationFor file.schemaPath, Query.input case.query b.repetitions, b.timeout⟩

/-- Turns taken one after another. Each case is run in the session that the one before it left,
whatever that one gave, and the engine is called once for it. -/
inductive Timed (b : Benchmarks) (runner : Runner σ) (file : BenchmarkFile) :
    List BenchmarkTurn → Session σ → Session σ → Prop
  | nil {s : Session σ} : Timed b runner file [] s s
  | cons {turn : BenchmarkTurn} {rest : List BenchmarkTurn} {s next last : Session σ}
    (ran : runCase runner (b.commandFor file.schemaPath) turn.case.query file.pattern.selects
      b.repetitions b.timeout s = (turn.result, next))
    (called : next.calls = s.calls ++ [turn.call]) (later : Timed b runner file rest next last) :
    Timed b runner file (turn :: rest) s last

/-- No calls are made but those of the turns. -/
theorem Timed.calls_eq {b : Benchmarks} {runner : Runner σ} {file : BenchmarkFile}
    {turns : List BenchmarkTurn} {s last : Session σ} (h : b.Timed runner file turns s last) :
    last.calls = s.calls ++ turns.map (·.call) := by
  induction h with
  | nil => exact (List.append_nil _).symm
  | cons ran called later ih =>
    rw [ih, called, List.append_assoc, List.map_cons, List.singleton_append]

theorem runCase_calls (b : Benchmarks) (runner : Runner σ) (file : BenchmarkFile)
    (case : BenchmarkCase) (s : Session σ) :
    (runCase runner (b.commandFor file.schemaPath) case.query file.pattern.selects b.repetitions
      b.timeout s).2.calls = s.calls ++ [b.callFor file case] :=
  runner.calls_invoke (b.callFor file case) s

/-- What a turn adds to a run. Its failure is put together from the command of the file again, and
this is the command that was called. -/
theorem addCase_eq (b : Benchmarks) (file : BenchmarkFile) (date : Date) (turn : BenchmarkTurn)
    (hcall : turn.call = b.callFor file turn.case) (later : BenchmarkRun) :
    addCase file date (b.commandFor file.schemaPath) turn.case turn.result later =
      ⟨turn.records file date ++ later.records, turn.failure?.toList ++ later.failures⟩ := by
  obtain ⟨case, call, result⟩ := turn
  obtain rfl : call = b.callFor file case := hcall
  cases result <;> rfl

theorem runCases_timed (b : Benchmarks) (runner : Runner σ) (file : BenchmarkFile) (date : Date)
    (cases : List BenchmarkCase) (s : Session σ) :
    ∃ turns : List BenchmarkTurn,
      turns.map (·.case) = cases ∧ turns.map (·.call) = cases.map (b.callFor file) ∧
      b.Timed runner file turns s (b.runCases runner file date cases s).2 ∧
      (b.runCases runner file date cases s).1 =
        ⟨turns.flatMap (·.records file date), turns.filterMap (·.failure?)⟩ := by
  induction cases generalizing s with
  | nil => exact ⟨[], rfl, rfl, .nil, rfl⟩
  | cons case rest ih =>
    obtain ⟨result, next, hran⟩ : ∃ result next,
        runCase runner (b.commandFor file.schemaPath) case.query file.pattern.selects
          b.repetitions b.timeout s = (result, next) := ⟨_, _, rfl⟩
    have hcalled := b.runCase_calls runner file case s
    rw [hran] at hcalled
    -- the other cases begin in the session that this one left, whether it failed or not
    obtain ⟨turns, hcases, hcalls, htimed, hrun⟩ := ih next
    let turn : BenchmarkTurn := ⟨case, b.callFor file case, result⟩
    refine ⟨turn :: turns, ?_, ?_, ?_, ?_⟩
    · rw [List.map_cons, hcases]
    · rw [List.map_cons, List.map_cons, hcalls]
    · simp only [runCases, hran]
      exact .cons hran hcalled htimed
    · simp only [runCases, hran, hrun]
      rw [b.addCase_eq file date turn rfl, List.flatMap_cons]
      cases result <;> rfl

/-- A file is run with one call for each case, in the order of the cases and whatever becomes of
them. Each turn adds a block of records or one failure, in this order, and nothing else is added.
A failure is reported with the command that was called for its case, which is the one that is
announced for the schema of the file. -/
theorem runFile_by_turns (b : Benchmarks) (runner : Runner σ) (file : BenchmarkFile) (date : Date)
    (s : Session σ) :
    let (run, last) := b.runFile runner file date s
    let line : Command :=
      ⟨b.binary, ["-t", file.schemaPath.text] ++ b.extraArguments ++ ["--quiet", "-"]⟩
    b.invocationFor file.schemaPath = line ∧
    last.calls = s.calls ++
      file.cases.map (fun case => ⟨line, Query.input case.query b.repetitions, b.timeout⟩) ∧
    (∀ failure ∈ run.failures, failure.command = line) ∧
    ∃ turns : List BenchmarkTurn,
      turns.map (·.case) = file.cases ∧ b.Timed runner file turns s last ∧
      last.calls = s.calls ++ turns.map (·.call) ∧
      run.records = turns.flatMap (·.records file date) ∧
      run.failures = turns.filterMap (·.failure?) ∧
      ∀ turn ∈ turns,
        (∃ times, turn.result = .ok times ∧ turn.failure? = none ∧ turn.records file date =
          times.map fun time =>
            ⟨date, file.suite, file.benchmark, file.name, turn.case.name, time⟩) ∨
        ∃ failure, turn.result = .error failure ∧ turn.records file date = [] ∧
          turn.failure? = some ⟨turn.case, turn.call.command, failure⟩ := by
  obtain ⟨turns, hcases, hcalls, htimed, hrun⟩ := b.runCases_timed runner file date file.cases s
  have hline : b.invocationFor file.schemaPath =
      ⟨b.binary, ["-t", file.schemaPath.text] ++ b.extraArguments ++ ["--quiet", "-"]⟩ := rfl
  have hmade := htimed.calls_eq
  refine ⟨hline, ?_, ?_, turns, hcases, htimed, hmade, congrArg (·.records) hrun,
    congrArg (·.failures) hrun, fun turn _ => turn.records_or_failure file date⟩
  · rw [hcalls] at hmade
    exact hmade
  · intro failure hfailure
    simp only [hrun] at hfailure
    obtain ⟨turn, hturn, hgiven⟩ := List.mem_filterMap.mp hfailure
    have hcall : turn.call ∈ file.cases.map (b.callFor file) := by
      rw [← hcalls]
      exact List.mem_map_of_mem hturn
    obtain ⟨case, -, hcase⟩ := List.mem_map.mp hcall
    rw [BenchmarkTurn.command_of_failure? hgiven, ← hcase]
    exact hline

end Benchmarks

end EngineTrials
