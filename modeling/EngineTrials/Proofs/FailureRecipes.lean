import EngineTrials.CommandLine.Bench
import EngineTrials.Proofs.BenchmarkRun
import EngineTrials.Proofs.EscapedQuery
import EngineTrials.Proofs.QueryLines
import EngineTrials.Proofs.Words

/-!
# Recipes that reproduce a failure

The query of a case is brought into one line by whoever needs it: by the call, by the report on a
failure, and by the announcement of what is about to run. They agree, and as escapes can be undone
the recipe holds all that the engine was sent but for how often.
-/
namespace EngineTrials

variable {σ : Type}

/-- A shell line names the command of a call behind an escaped text. Undone, this text is one line,
and the call sends nothing but this line, so many times. -/
def Reproduces (recipe : String) (call : Call) (times : Nat) : Prop :=
  ∃ escaped line : List Char,
    recipe = "$ echo -e \"" ++ String.ofList escaped ++ "\" | " ++ call.command.text ∧
    Query.unescape? escaped = some line ∧ '\n' ∉ line ∧
    call.input = String.ofList (List.replicate times (line ++ ['\n'])).flatten ∧
    Text.payload call.input =
      (List.replicate times (Text.payload (String.ofList line) ++ [0x0A])).flatten

namespace Report

/-- The line that every report on a failure ends with. -/
def failureLine (file : BenchmarkFile) (failure : BenchmarkFailure) : String :=
  "Benchmark " ++ file.suite ++ "/" ++ file.benchmark ++ " failed: " ++ failure.message

/-- The lines above it, for a failure that can be reproduced. -/
def reproduction (file : BenchmarkFile) (recipe : String) (exitCode : Int)
    (stdout stderr : String) : String :=
  file.path.text ++ "\n" ++ "Unexpected failure with return code " ++ Text.decimal exitCode ++
    ":\n" ++ recipe ++ "\n===== stdout =====\n" ++ stdout ++ "\n===== stderr =====\n" ++ stderr ++
    "\n==================" ++ "\n"

end Report

namespace CommandLine

namespace Progress

/-- What a text adds to the output. -/
def added (text : String) : List Char :=
  let bare := Text.dropTrailing (· == '\n') text.toList
  if bare.isEmpty then [] else bare ++ ['\n']

theorem stdout_print (p : Progress) (text : String) :
    (p.print text).stdout.toList = p.stdout.toList ++ added text := by
  rw [print, added]
  split
  · exact (List.append_nil _).symm
  · rw [String.toList_append, String.toList_append, String.toList_ofList, List.append_assoc]
    rfl

theorem files_print (p : Progress) (text : String) : (p.print text).files = p.files := by
  rw [print]
  split <;> rfl

theorem stdout_prints (texts : List String) (p : Progress) :
    (texts.foldl print p).stdout.toList = p.stdout.toList ++ texts.flatMap added := by
  induction texts generalizing p with
  | nil => exact (List.append_nil _).symm
  | cons text rest ih => rw [List.foldl_cons, ih, stdout_print, List.append_assoc, List.flatMap_cons]

theorem files_prints (texts : List String) (p : Progress) :
    (texts.foldl print p).files = p.files := by
  induction texts generalizing p with
  | nil => rfl
  | cons text rest ih => rw [List.foldl_cons, ih, files_print]

theorem added_of_concat {text : String} {front : List Char} {c : Char}
    (htext : text.toList = front ++ [c]) (hc : c ≠ '\n') : added text = text.toList ++ ['\n'] := by
  have hbare : Text.dropTrailing (· == '\n') text.toList = text.toList := by
    apply Text.dropTrailing_of_getLast?
    intro d hd
    rw [htext, List.getLast?_concat] at hd
    rw [← Option.some.inj hd]
    exact beq_eq_false_iff_ne.mpr hc
  have hsome : text.toList.isEmpty = false := by
    rw [htext, List.isEmpty_eq_false_iff]
    exact List.concat_ne_nil c front
  rw [added, hbare, hsome]
  rfl

end Progress

namespace BenchOptions

theorem recipe_reproduces (b : Benchmarks) (file : BenchmarkFile) (case : BenchmarkCase) :
    Reproduces (recipe b file case) (b.callFor file case) b.repetitions := by
  refine ⟨Query.escapeChars (Query.normalizeChars case.query.toList),
    Query.normalizeChars case.query.toList, ?_, Query.unescape?_escapeChars _,
    Query.newline_not_mem_normalizeChars _, rfl, Text.payload_lines _ _⟩
  rw [recipe, Query.escape, Query.normalize, String.toList_ofList]
  rfl

/-- A recipe closes with the switches of the call, so nothing of it is cut off in print. -/
theorem added_recipe (b : Benchmarks) (file : BenchmarkFile) (case : BenchmarkCase) :
    Progress.added (recipe b file case) = (recipe b file case).toList ++ ['\n'] := by
  have hlast : ∃ front, (b.invocationFor file.schemaPath).text = front ++ "-" := by
    refine ⟨(b.commandFor file.schemaPath).text ++ " " ++ "--quiet" ++ " ", ?_⟩
    rw [Command.text, Benchmarks.invocationFor, Benchmarks.quietFromInput, Command.withArguments,
      List.foldl_append]
    rfl
  obtain ⟨front, hfront⟩ := hlast
  have hrecipe : (recipe b file case).toList =
      ("$ echo -e \"" ++ Query.escape (Query.normalize case.query) ++ "\" | " ++ front).toList ++
        ['-'] := by
    rw [recipe, hfront, ← String.append_assoc, String.toList_append]
    rfl
  exact Progress.added_of_concat hrecipe (by decide)

/-- The output of a file that is announced: first the recipes of all its cases, then the reports on
those that failed. -/
theorem performFile_verbose (settings : Config.Settings) (today : Date)
    (runner : Runner FileSystem) (file : BenchmarkFile) (st : State) :
    let b := settings.benchmarks
    let (run, _) := b.runFile runner file today ⟨st.progress.files, []⟩
    (performFile ⟨settings, true, today⟩ runner file st).progress.stdout.toList =
      st.progress.stdout.toList ++
        file.cases.flatMap (fun case => (recipe b file case).toList ++ ['\n']) ++
        run.failures.flatMap fun failure => Progress.added (Report.caseFailure file failure) := by
  have hshown := Progress.stdout_prints (file.cases.map (recipe settings.benchmarks file))
    st.progress
  have hfiles := Progress.files_prints (file.cases.map (recipe settings.benchmarks file))
    st.progress
  simp only [performFile, if_true, hfiles, Progress.stdout_prints, List.flatMap_map, added_recipe]

end BenchOptions

end CommandLine

namespace Report
open CommandLine

/-- An unexpected failure is reported with the recipe that is announced for its case. -/
theorem caseFailure_unexpected (b : Benchmarks) (file : BenchmarkFile) (case : BenchmarkCase)
    (exitCode : Int) (stdout stderr : String) :
    caseFailure file ⟨case, (b.callFor file case).command, .unexpected exitCode stdout stderr⟩ =
      reproduction file (BenchOptions.recipe b file case) exitCode stdout stderr ++
        failureLine file (.unexpected exitCode stdout stderr) := by
  simp only [caseFailure, BenchmarkFailure.diagnostic?, BenchmarkFailure.recipe, reproduction,
    failureLine, BenchOptions.recipe, Benchmarks.callFor, String.append_assoc]

end Report

namespace Benchmarks
open CommandLine

/-- The session knows of no other call in a turn than the one that its case needs. -/
theorem Timed.call_eq {b : Benchmarks} {runner : Runner σ} {file : BenchmarkFile}
    {turns : List BenchmarkTurn} {s last : Session σ} (h : b.Timed runner file turns s last)
    {turn : BenchmarkTurn} (hturn : turn ∈ turns) : turn.call = b.callFor file turn.case := by
  induction h with
  | nil => cases hturn
  | @cons first rest s next last ran called later ih =>
    rcases List.mem_cons.mp hturn with rfl | hrest
    · have hmade := b.runCase_calls runner file turn.case s
      rw [ran, called] at hmade
      exact List.singleton_inj.mp (List.append_cancel_left hmade)
    · exact ih hrest

/-- What is reported of a case that failed unexpectedly holds a recipe that reproduces the call that
was made for it, and this is the recipe that a verbose run prints before it makes the call. Nothing
but one line is reported of a case that took too long or for which the engine did not start. -/
theorem reported_recipes_reproduce (b : Benchmarks) (runner : Runner σ) (file : BenchmarkFile)
    (date : Date) (s : Session σ) :
    (let (run, last) := b.runFile runner file date s
    ∃ turns : List BenchmarkTurn,
      turns.map (·.case) = file.cases ∧ b.Timed runner file turns s last ∧
      last.calls = s.calls ++ turns.map (·.call) ∧ run.failures = turns.filterMap (·.failure?) ∧
      ∀ turn ∈ turns, ∀ cause, turn.result = .error cause →
        ∃ failure, turn.failure? = some failure ∧
          match cause with
          | .unexpected exitCode stdout stderr =>
            let recipe := BenchOptions.recipe b file turn.case
            Reproduces recipe turn.call b.repetitions ∧
            Report.caseFailure file failure =
              Report.reproduction file recipe exitCode stdout stderr ++
                Report.failureLine file cause
          | .timeout _ | .launch _ =>
            Report.caseFailure file failure = Report.failureLine file cause) ∧
    ∀ (settings : Config.Settings) (today : Date) (runner : Runner FileSystem)
      (st : BenchOptions.State),
      let b := settings.benchmarks
      let (run, _) := b.runFile runner file today ⟨st.progress.files, []⟩
      (BenchOptions.performFile ⟨settings, true, today⟩ runner file st).progress.stdout.toList =
        st.progress.stdout.toList ++
          file.cases.flatMap (fun case => (BenchOptions.recipe b file case).toList ++ ['\n']) ++
          run.failures.flatMap fun failure =>
            Progress.added (Report.caseFailure file failure) := by
  obtain ⟨turns, hcases, hcalls, htimed, hrun⟩ := b.runCases_timed runner file date file.cases s
  refine ⟨⟨turns, hcases, htimed, htimed.calls_eq, congrArg (·.failures) hrun, ?_⟩,
    fun settings today runner st => BenchOptions.performFile_verbose settings today runner file st⟩
  intro turn hturn cause hcause
  have hcall : turn.call = b.callFor file turn.case := htimed.call_eq hturn
  have hfailure : turn.failure? = some ⟨turn.case, turn.call.command, cause⟩ := by
    rw [BenchmarkTurn.failure?, hcause]
  refine ⟨_, hfailure, ?_⟩
  cases cause with
  | unexpected exitCode stdout stderr =>
    rw [hcall]
    exact ⟨BenchOptions.recipe_reproduces b file turn.case,
      Report.caseFailure_unexpected b file turn.case exitCode stdout stderr⟩
  | timeout limit => rfl
  | launch cause => rfl

end Benchmarks

end EngineTrials
