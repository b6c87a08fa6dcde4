import EngineTrials.Benchmark.Run
import EngineTrials.Proofs.PayloadBytes
import EngineTrials.Proofs.SampleRequests

/-!
# What the engine's answer makes of a case

A case makes one call, and the answer to this call decides what it gives: all of its samples, or one
of three kinds of failure. `Gives` has a rule for each kind of result, and for every answer there is
just one result by these rules. A completed run that is not clean gives no samples at all, but
nothing of what the engine wrote is lost: both streams are kept one character a byte, and such a
text is narrow, so that it is encoded the way it was read.
-/
namespace EngineTrials
open Text

/-- Samples are all that is handed out on request, and in the same order. -/
theorem Timings.answers_eq_iff {selects : List Char → Bool} {output : List Char}
    {times : List Binary64} :
    (∀ k, (start output).answer selects k = times[k]?) ↔ times = samples selects output := by
  simp only [answer_eq, remaining_start]
  constructor
  · intro h
    exact (List.ext_getElem? h).symm
  · rintro rfl k
    rfl

namespace Benchmarks

/-- What a case gives, by the answer that its call got. -/
inductive Gives (selects : List Char → Bool) :
    Except EngineError Capture → Except BenchmarkFailure (List Binary64) → Prop
  | samples {c : Capture} (clean : c.exitCode = 0 ∧ c.stderr = []) :
    Gives selects (.ok c) (.ok (samples selects (Latin1.decode c.stdout).toList))
  | unexpected {c : Capture} (dirty : ¬ (c.exitCode = 0 ∧ c.stderr = [])) :
    Gives selects (.ok c)
      (.error (.unexpected c.exitCode (Latin1.decode c.stdout) (Latin1.decode c.stderr)))
  | timeout {limit : Duration} :
    Gives selects (.error (.timeout limit)) (.error (.timeout limit))
  | launch {e : EngineError} (other : ¬ e.isTimeout = true) :
    Gives selects (.error e) (.error (.launch e.message))

variable {σ : Type} {selects : List Char → Bool} {answer : Except EngineError Capture}

theorem gives_samplesOf : Gives selects answer (samplesOf selects answer) := by
  cases answer with
  | error e =>
    cases e with
    | timeout limit => exact .timeout
    | launch program cause => exact .launch Bool.false_ne_true
    | input cause => exact .launch Bool.false_ne_true
    | io cause => exact .launch Bool.false_ne_true
  | ok c =>
    rw [samplesOf]
    split
    case isTrue hclean => exact .samples (Capture.isClean_iff.mp hclean)
    case isFalse hdirty => exact .unexpected fun hclean => hdirty (Capture.isClean_iff.mpr hclean)

theorem Gives.unique {result other : Except BenchmarkFailure (List Binary64)}
    (h : Gives selects answer result) (h' : Gives selects answer other) : result = other := by
  cases h with
  | samples clean =>
    cases h' with
    | samples => rfl
    | unexpected dirty => exact absurd clean dirty
  | unexpected dirty =>
    cases h' with
    | samples clean => exact absurd clean dirty
    | unexpected => rfl
  | timeout =>
    cases h' with
    | timeout => rfl
    | launch other => exact absurd rfl other
  | launch other =>
    cases h' with
    | timeout => exact absurd rfl other
    | launch => rfl

theorem samplesOf_eq_iff {result : Except BenchmarkFailure (List Binary64)} :
    samplesOf selects answer = result ↔ Gives selects answer result :=
  ⟨fun h => h ▸ gives_samplesOf, gives_samplesOf.unique⟩

theorem gives_ok_iff {times : List Binary64} :
    Gives selects answer (.ok times) ↔
      ∃ c, answer = .ok c ∧ c.exitCode = 0 ∧ c.stderr = [] ∧
        ∀ k, (Timings.start (Latin1.decode c.stdout).toList).answer selects k = times[k]? := by
  simp only [Timings.answers_eq_iff]
  constructor
  · rintro (⟨hcode, hquiet⟩ | _)
    exact ⟨_, rfl, hcode, hquiet, rfl⟩
  · rintro ⟨c, rfl, hcode, hquiet, rfl⟩
    exact .samples ⟨hcode, hquiet⟩

theorem gives_timeout_iff {limit : Duration} :
    Gives selects answer (.error (.timeout limit)) ↔ answer = .error (.timeout limit) := by
  constructor
  · rintro (_ | _)
    rfl
  · rintro rfl
    exact .timeout

theorem gives_launch_iff {cause : String} :
    Gives selects answer (.error (.launch cause)) ↔
      ∃ e, answer = .error e ∧ ¬ e.isTimeout = true ∧ e.message = cause := by
  constructor
  · intro h
    cases h with
    | launch other => exact ⟨_, rfl, other, rfl⟩
  · rintro ⟨e, rfl, hother, rfl⟩
    exact .launch hother

/-- Both texts of a failure can be turned back into what was written. -/
theorem gives_unexpected_iff {exitCode : Int} {stdout stderr : String} :
    Gives selects answer (.error (.unexpected exitCode stdout stderr)) ↔
      ∃ c, answer = .ok c ∧ ¬ (c.exitCode = 0 ∧ c.stderr = []) ∧ c.exitCode = exitCode ∧
        (¬ IsWide stdout ∧ payload stdout = c.stdout) ∧
        ¬ IsWide stderr ∧ payload stderr = c.stderr := by
  simp only [← eq_decode_iff]
  constructor
  · intro h
    cases h with
    | unexpected dirty => exact ⟨_, rfl, dirty, rfl, rfl, rfl⟩
  · rintro ⟨c, rfl, hdirty, rfl, rfl, rfl⟩
    exact .unexpected hdirty

/-- A case calls the engine once, with the command extended by the switches for quiet runs and for
queries on standard input, and with all repetitions of the query as input. It gives samples exactly
if the engine ran to its end with exit code zero and nothing on its error stream, and the samples
are those that its output gives on request. A timeout is passed on with its limit, and of any other
error the message. Every other run becomes an unexpected failure with its exit code and with two
narrow texts, whose payloads are the bytes that were written. -/
theorem runCase_by_answer (runner : Runner σ) (command : Command) (query : String)
    (selects : List Char → Bool) (repetitions : Nat) (timeout : Duration) (s : Session σ) :
    let call : Call := ⟨⟨command.program, command.arguments ++ ["--quiet", "-"]⟩,
      Query.input query repetitions, timeout⟩
    let (answer, state) := runner call s.state
    let (result, last) := runCase runner command query selects repetitions timeout s
    last = ⟨state, s.calls ++ [call]⟩ ∧
    (∀ times, result = .ok times ↔
      ∃ c, answer = .ok c ∧ c.exitCode = 0 ∧ c.stderr = [] ∧
        ∀ k, (Timings.start (Latin1.decode c.stdout).toList).answer selects k = times[k]?) ∧
    (∀ limit, result = .error (.timeout limit) ↔ answer = .error (.timeout limit)) ∧
    (∀ cause, result = .error (.launch cause) ↔
      ∃ e, answer = .error e ∧ ¬ e.isTimeout = true ∧ e.message = cause) ∧
    ∀ exitCode stdout stderr, result = .error (.unexpected exitCode stdout stderr) ↔
      ∃ c, answer = .ok c ∧ ¬ (c.exitCode = 0 ∧ c.stderr = []) ∧ c.exitCode = exitCode ∧
        (¬ IsWide stdout ∧ payload stdout = c.stdout) ∧
        ¬ IsWide stderr ∧ payload stderr = c.stderr := by
  intro call
  have hresult : ∀ result, (runCase runner command query selects repetitions timeout s).1 = result ↔
      Gives selects (runner call s.state).1 result := fun result => samplesOf_eq_iff
  exact ⟨rfl, fun times => (hresult _).trans gives_ok_iff,
    fun limit => (hresult _).trans gives_timeout_iff,
    fun cause => (hresult _).trans gives_launch_iff,
    fun exitCode stdout stderr => (hresult _).trans gives_unexpected_iff⟩

end Benchmarks

end EngineTrials
