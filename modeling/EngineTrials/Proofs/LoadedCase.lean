import EngineTrials.Proofs.TestFileSchema
import EngineTrials.Proofs.TrialRun

/-!
# Running a case from a file

A case that was read from a file can be run as it is: the file is refused unless every stage it
declares has a command line. So a stage that counts as run is one for which the engine was called,
which does not hold of a case put together by hand.
-/
namespace EngineTrials

theorem append_ne_append {s t : String} {a b : Char} (hs : s.toList.head? = some a)
    (ht : t.toList.head? = some b) (hab : a ≠ b) (u v : String) : s ++ u ≠ t ++ v := by
  intro h
  have hhead := congrArg (fun w => w.toList.head?) h
  simp only [String.toList_append, List.head?_append, hs, ht, Option.some_or,
    Option.some.injEq] at hhead
  exact hab hhead

/-- No failure of the engine reads like a setup that is missing. -/
theorem EngineError.message_ne_missingSetup (e : EngineError) (db : String) :
    e.message ≠ StageCommands.missingSetupMessage db := by
  unfold message StageCommands.missingSetupMessage
  rw [@String.append_assoc "no setup configured for db '"]
  cases e with
  | launch program cause =>
    show "Failed to launch " ++ program ++ ": " ++ cause ≠ _
    rw [@String.append_assoc _ ": " cause, @String.append_assoc "Failed to launch "]
    exact append_ne_append (a := 'F') (b := 'n') (by decide) (by decide) (by decide) _ _
  | timeout limit =>
    exact append_ne_append (a := 'P') (b := 'n') (by decide) (by decide) (by decide) _ _
  | input cause =>
    exact append_ne_append (a := 'F') (b := 'n') (by decide) (by decide) (by decide) _ _
  | io cause =>
    exact append_ne_append (a := 'I') (b := 'n') (by decide) (by decide) (by decide) _ _

namespace ReachesTo

/-- The stages that count as run are those up to the first that failed. -/
theorem filter_wasExecuted {outcomes : List StageOutcome} {k : Nat} (h : ReachesTo outcomes k) :
    outcomes.filter (·.wasExecuted) = outcomes.take (k + 1) := by
  have hran : ∀ o ∈ outcomes.take (k + 1), o.wasExecuted := by
    rw [List.take_add_one]
    intro o ho
    rcases List.mem_append.mp ho with ho | ho
    · have hpassed := h.passed o ho
      simp_all [StageOutcome.passed, StageOutcome.wasExecuted]
    · obtain ⟨failure, hf, hne⟩ := h.failed o (Option.mem_toList.mp ho)
      simpa [StageOutcome.wasExecuted, hf] using hne
  have hskipped : ∀ o ∈ outcomes.drop (k + 1), ¬ o.wasExecuted := fun o ho => by
    simp [StageOutcome.wasExecuted, h.skipped o ho]
  rw [← List.take_append_drop (k + 1) outcomes, List.filter_append,
    List.filter_eq_self.mpr hran, List.filter_eq_nil_iff.mpr hskipped, List.append_nil,
    List.take_append_drop]

end ReachesTo

namespace Trials

variable {σ : Type}

/-- A call for a stage of a case: the command line of the stage, the query of the case and the
configured limit. -/
structure IsCallFor (t : Trials) (case : TestCase) (stage : Stage) (call : Call) : Prop where
  line : t.commands.command stage case.database = .ok call.command
  input : call.input = case.query
  timeout : call.timeout = t.timeout

/-- If every stage has a command line, each of them has a call. -/
theorem forall₂_isCallFor (t : Trials) (case : TestCase) (specs : List StageSpec)
    (outcomes : List StageOutcome) (hstages : outcomes.map (·.stage) = specs.map (·.stage))
    (hlines : ∀ spec ∈ specs, ∃ line, t.commands.command spec.stage case.database = .ok line) :
    List.Forall₂ (fun o call => t.IsCallFor case o.stage call) outcomes
      (specs.filterMap (t.callOf? case)) := by
  induction specs generalizing outcomes with
  | nil =>
    obtain rfl := List.map_eq_nil_iff.mp hstages
    exact .nil
  | cons spec rest ih =>
    obtain ⟨o, more, rfl, hstage, hmore⟩ := List.map_eq_cons_iff.mp hstages
    obtain ⟨line, hline⟩ := hlines spec List.mem_cons_self
    have hcall : t.callOf? case spec = some ⟨line, case.query, t.timeout⟩ := by
      simp [callOf?, hline, Except.toOption]
    rw [filterMap_callOf?_cons, hcall]
    refine .cons ⟨?_, rfl, rfl⟩ (ih more hmore fun spec' h => hlines spec' (.tail _ h))
    rw [hstage, hline]

/-- The outcome of a call does not blame a missing setup. -/
theorem outcomeOf_ne_missingSetup (spec : StageSpec) (answer : Except EngineError Capture)
    (db : String) : (outcomeOf spec answer).failure ≠
      some (.process (StageCommands.missingSetupMessage db)) := by
  intro h
  obtain ⟨limit, hf⟩ | ⟨e, hf⟩ | hf := (outcomeOf_cases spec answer).2 _ h
  · cases hf
  · exact e.message_ne_missingSetup db (StageFailure.process.inj hf).symm
  · simp [Expectation.checkOrder] at hf

theorem resolve_ne_missingSetup {t : Trials} {runner : Runner σ} {db query : String}
    {proceed : Bool} {spec : StageSpec} {s : Session σ}
    (hline : ∃ line, t.commands.command spec.stage db = .ok line) :
    (t.resolve runner db query proceed spec s).1.failure ≠
      some (.process (StageCommands.missingSetupMessage db)) := by
  obtain ⟨line, hline⟩ := hline
  cases proceed with
  | false => simp [resolve, StageOutcome.skipped]
  | true =>
    simp only [resolve, ↓reduceIte, runStage, hline]
    exact outcomeOf_ne_missingSetup _ _ _

/-- The outcomes of stages with command lines do not blame a missing setup. -/
theorem runStages_ne_missingSetup (t : Trials) (runner : Runner σ) (db query : String)
    (proceed : Bool) (specs : List StageSpec) (s : Session σ)
    (hlines : ∀ spec ∈ specs, ∃ line, t.commands.command spec.stage db = .ok line) :
    ∀ o ∈ (t.runStages runner db query proceed specs s).1,
      o.failure ≠ some (.process (StageCommands.missingSetupMessage db)) := by
  induction specs generalizing proceed s with
  | nil => simp [runStages]
  | cons spec rest ih =>
    intro o ho
    rcases List.mem_cons.mp ho with hfirst | ho
    · rw [hfirst]
      exact resolve_ne_missingSetup (hlines spec List.mem_cons_self)
    · exact ih _ _ (fun spec' h => hlines spec' (.tail _ h)) o ho

end Trials

namespace CaseFile.TestFile
open Yaml

theorem stages_nodup {d : Document} {n : Node} {c : TestCase} (h : DescribesCase d n c) :
    (c.stages.map (·.stage)).Nodup := by
  obtain ⟨fields, -, hkeys⟩ := h
  obtain ⟨value, -, es, -, -, hnodup⟩ := hkeys .stages
  exact hnodup

theorem IsRunnable.exists_command {commands : StageCommands} {c : TestCase}
    (h : IsRunnable commands c) {spec : StageSpec} (hspec : spec ∈ c.stages) :
    ∃ line, commands.command spec.stage c.database = .ok line :=
  StageCommands.exists_command (h.setup.imp_left fun hfree => hfree spec hspec)

/-- A case from a file has stages, no two of them the same, and each has a command line. When it is
run, no outcome blames a missing setup, and the engine is called once for each outcome that counts
as run, in the order of these. -/
theorem parse_ok_calls_executed {t : Trials} {path : Path} {contents : String} {c : TestCase}
    (h : parse path contents t.commands = .ok c) :
    c.stages ≠ [] ∧ (c.stages.map (·.stage)).Nodup ∧
    (∀ spec ∈ c.stages, ∃ line, t.commands.command spec.stage c.database = .ok line) ∧
    ∀ (σ : Type) (runner : Runner σ) (counters : Counters) (s : Session σ),
      ∃ outcomes after s' added, t.runCase runner c counters s = (outcomes, after, s') ∧
        (∀ o ∈ outcomes, o.failure ≠
          some (.process (StageCommands.missingSetupMessage c.database))) ∧
        s'.calls = s.calls ++ added ∧ outcomes.countP (·.wasExecuted) = added.length ∧
        List.Forall₂ (fun o call => t.IsCallFor c o.stage call)
          (outcomes.filter (·.wasExecuted)) added := by
  obtain ⟨hread, hrunnable⟩ := parse_ok_iff.mp h
  have hdescribes := (case_ok_iff.mp (fromText_ok_iff.mp hread).2).2
  have hlines : ∀ spec ∈ c.stages, ∃ line, t.commands.command spec.stage c.database = .ok line :=
    fun spec hspec => hrunnable.exists_command hspec
  refine ⟨hrunnable.nonempty, stages_nodup hdescribes, hlines, fun σ runner counters s => ?_⟩
  obtain ⟨outcomes, s', hrun, hstages, k, hreach, hcalls⟩ := t.runStages_reach runner c c.stages s
  have hmissing := t.runStages_ne_missingSetup runner c.database c.query true c.stages s hlines
  rw [hrun] at hmissing
  have hpaired := t.forall₂_isCallFor c (c.stages.take (k + 1)) (outcomes.take (k + 1))
    (by rw [List.map_take, List.map_take, hstages])
    (fun spec hspec => hlines spec (List.mem_of_mem_take hspec))
  rw [← hreach.filter_wasExecuted] at hpaired
  refine ⟨outcomes, counters.recordAll outcomes c.required, s', _, ?_, hmissing, hcalls, ?_,
    hpaired⟩
  · rw [Trials.runCase, hrun]
  · rw [List.countP_eq_length_filter, hpaired.length_eq]

/-- A file with one stage that needs a setup. -/
theorem parse_ok_calls_executed_sema :
    let setups : Setups := .ofList [("ours", ⟨"ours.sql"⟩)]
    let t : Trials := { commands := { binDir := ⟨"bin"⟩, setups } }
    let c : TestCase := ⟨⟨"t.yml"⟩, "d", "ours", "q", true, [⟨.sema, ⟨some 0, none, none, none⟩⟩]⟩
    parse ⟨"t.yml"⟩
        "description: d\ndb: ours\nquery: q\nrequired: true\nstages:\n  sema:\n    returncode: 0"
        t.commands = .ok c ∧
      ∀ (σ : Type) (runner : Runner σ) (s : Session σ), ∃ outcomes after s' added,
        t.runCase runner c {} s = (outcomes, after, s') ∧ s'.calls = s.calls ++ added ∧
          outcomes.countP (·.wasExecuted) = added.length := by
  intro setups t c
  have h : parse ⟨"t.yml"⟩
      "description: d\ndb: ours\nquery: q\nrequired: true\nstages:\n  sema:\n    returncode: 0"
      t.commands = .ok c := by decide +kernel
  refine ⟨h, fun σ runner s => ?_⟩
  obtain ⟨-, -, -, hruns⟩ := parse_ok_calls_executed h
  obtain ⟨outcomes, after, s', added, hrun, -, hcalls, hcount, -⟩ := hruns σ runner {} s
  exact ⟨outcomes, after, s', added, hrun, hcalls, hcount⟩

-- Put together by hand, a case can count a stage as run without a call.
example :
    let t : Trials := { commands := { binDir := ⟨"bin"⟩, setups := {} } }
    let c : TestCase := ⟨⟨"t.yml"⟩, "d", "ours", "q", true, [⟨.sema, {}⟩]⟩
    let run := t.runCase (Runner.ofFunction fun _ => .error (.io "")) c {} ⟨(), []⟩
    run.1.countP (·.wasExecuted) = 1 ∧ run.2.2.calls = [] := by
  decide

end CaseFile.TestFile

end EngineTrials
