import EngineTrials.Engine.Supervisor

/-!
# What a verdict rests on

A supervisor sees a program only by looks, and whatever these show in whatever order, its verdict
rests on what they showed before it. What one look can lead to is said once, by `Moves`. From it
follows what is known in each phase, look by look, and so what is known when there is a verdict:
that the program is gone, and by which look each part of the verdict came about.
-/
namespace EngineTrials
namespace Supervisor
open Text

/-- Whether the writing goes on after a look, as far as it was watched at all. -/
def goesOn (writing : Bool) (look : Look) : Bool :=
  writing && decide (look.writer = .unfinished)

/-- The instant by which a phase is over at the latest, in nanoseconds. -/
def Phase.latest (w : Watch) : Phase → Nat
  | .running _ => w.start.nanoseconds + w.limit.nanoseconds
  | .awaitingWriter _ deadline => deadline.nanoseconds
  | .awaitingStdout _ deadline => deadline.nanoseconds
  | .awaitingStderr _ deadline _ => deadline.nanoseconds
  | .discardingStdout _ failed => failed.nanoseconds + grace.nanoseconds
  | .discardingStderr _ failed => failed.nanoseconds + grace.nanoseconds

/-- Whether nothing but the end of a stream is waited for. -/
def Phase.isDraining : Phase → Bool
  | .running _ | .awaitingWriter .. => false
  | _ => true

/-- The writing has not failed, as far as it was watched at all. -/
def WritesSoundly (writing : Bool) (look : Look) : Prop :=
  writing = true → ∀ cause, look.writer ≠ .failed cause

/-- What a look can lead to, and what is done on the way. -/
inductive Moves (w : Watch) (look : Look) : Phase → List Act → Progress → Prop
  | inputFailed {cause : String} (writer : look.writer = .failed cause) :
      Moves w look (.running true) [.kill, .wait]
        (.again (.discardingStdout (.input cause) look.now))
  | exited {writing : Bool} {code : Int} (sound : WritesSoundly writing look)
      (child : look.child = .exited code) :
      Moves w look (.running writing) [.collect code] (afterExit w (goesOn writing look) code)
  | unknown {writing : Bool} {cause : String} (child : look.child = .unknown cause) :
      Moves w look (.running writing) [.kill, .wait]
        (.again (.discardingStdout (.io cause) look.now))
  | expired {writing : Bool} (child : look.child = .running)
      (late : w.limit.nanoseconds ≤ (look.now.since w.start).nanoseconds) :
      Moves w look (.running writing) [.kill, .wait]
        (.again (.discardingStdout (.timeout w.limit) look.now))
  | running {writing : Bool} (sound : WritesSoundly writing look) (child : look.child = .running)
      (early : (look.now.since w.start).nanoseconds < w.limit.nanoseconds) :
      Moves w look (.running writing) [] (.later (.running (goesOn writing look)))
  | written {code : Int} {deadline : Instant}
      (writer : look.writer = .complete ∨ look.writer = .unread) :
      Moves w look (.awaitingWriter code deadline) [] (.again (.awaitingStdout code deadline))
  | lateInputFailed {code : Int} {deadline : Instant} {cause : String}
      (writer : look.writer = .failed cause) :
      Moves w look (.awaitingWriter code deadline) []
        (.again (.discardingStdout (.input cause) look.now))
  | inputExpired {code : Int} {deadline : Instant}
      (late : deadline.nanoseconds ≤ look.now.nanoseconds) :
      Moves w look (.awaitingWriter code deadline) []
        (.again (.discardingStdout (.timeout w.limit) look.now))
  | stdoutClosed {code : Int} {deadline : Instant} {out : Bytes} (stdout : look.stdout = some out) :
      Moves w look (.awaitingStdout code deadline) []
        (.again (.awaitingStderr code deadline (some out)))
  | stdoutExpired {code : Int} {deadline : Instant}
      (late : deadline.nanoseconds ≤ look.now.nanoseconds) :
      Moves w look (.awaitingStdout code deadline) [] (.again (.awaitingStderr code deadline none))
  | concluded {code : Int} {deadline : Instant} {stdout stderr : Option Bytes}
      (shown : look.stderr = stderr)
      (due : stderr = none → deadline.nanoseconds ≤ look.now.nanoseconds) :
      Moves w look (.awaitingStderr code deadline stdout) []
        (conclude w code look.now stdout stderr)
  | discarded {error : EngineError} {failed : Instant} :
      Moves w look (.discardingStdout error failed) [] (.again (.discardingStderr error failed))
  | failed {error : EngineError} {failed : Instant} :
      Moves w look (.discardingStderr error failed) [] (.finished (.answered (.error error)))
  | inputWaits {code : Int} {deadline : Instant} (writer : look.writer = .unfinished)
      (early : look.now.nanoseconds < deadline.nanoseconds) :
      Moves w look (.awaitingWriter code deadline) [] (.later (.awaitingWriter code deadline))
  | drains {phase : Phase} (draining : phase.isDraining = true)
      (early : look.now.nanoseconds < phase.latest w) : Moves w look phase [] (.later phase)

theorem lookAtRunning_of_sound (w : Watch) {writing : Bool} {look : Look}
    (h : WritesSoundly writing look) : lookAtRunning w writing look =
      match look.child with
      | .exited code => ([.collect code], afterExit w (goesOn writing look) code)
      | .unknown cause => abandon look.now (.io cause)
      | .running =>
        if w.limit.nanoseconds ≤ (look.now.since w.start).nanoseconds then
          abandon look.now (.timeout w.limit)
        else ([], .later (.running (goesOn writing look))) := by
  rw [lookAtRunning.eq_def]
  split
  case h_1 cause hwriter => exact absurd hwriter (h rfl cause)
  case h_2 => rfl

theorem moves_running (w : Watch) (writing : Bool) (look : Look) :
    Moves w look (.running writing) (lookAtRunning w writing look).1
      (lookAtRunning w writing look).2 := by
  by_cases hfails : writing = true ∧ ∃ cause, look.writer = .failed cause
  · obtain ⟨rfl, cause, hwriter⟩ := hfails
    rw [lookAtRunning.eq_def, hwriter]
    exact .inputFailed hwriter
  · have hsound : WritesSoundly writing look := fun hwriting cause hwriter =>
      hfails ⟨hwriting, cause, hwriter⟩
    rw [lookAtRunning_of_sound w hsound]
    cases hchild : look.child with
    | exited code => exact .exited hsound hchild
    | unknown cause => exact .unknown hchild
    | running =>
      by_cases hlate : w.limit.nanoseconds ≤ (look.now.since w.start).nanoseconds
      · simp only [if_pos hlate]
        exact .expired hchild hlate
      · simp only [if_neg hlate]
        exact .running hsound hchild (Nat.lt_of_not_le hlate)

theorem moves_untilDeadline {w : Watch} {look : Look} {phase : Phase} {deadline : Instant}
    {otherwise : Progress}
    (hearly : look.now.nanoseconds < deadline.nanoseconds → Moves w look phase [] (.later phase))
    (hlate : deadline.nanoseconds ≤ look.now.nanoseconds → Moves w look phase [] otherwise) :
    Moves w look phase [] (untilDeadline deadline look.now phase otherwise) := by
  rw [untilDeadline]
  split
  · next h => exact hlate h
  · next h => exact hearly (Nat.lt_of_not_le h)

theorem moves_discard {w : Watch} {look : Look} {phase : Phase} {failed : Instant}
    (stream : Option Bytes) {next : Progress} (hdraining : phase.isDraining = true)
    (hlatest : phase.latest w = failed.nanoseconds + grace.nanoseconds)
    (hnext : Moves w look phase [] next) :
    Moves w look phase [] (discard failed look.now stream phase next) := by
  rw [discard]
  split
  · exact hnext
  · next h =>
    have hwaits : look.now.nanoseconds - failed.nanoseconds < grace.nanoseconds :=
      Nat.lt_of_not_le fun hle => h (by
        rw [Bool.or_eq_true, decide_eq_true_eq]
        exact .inr hle)
    exact .drains hdraining (by omega)

/-- All that one look can do. -/
theorem step_moves (w : Watch) (phase : Phase) (look : Look) :
    Moves w look phase (step w phase look).1 (step w phase look).2 := by
  cases phase with
  | running writing => exact moves_running w writing look
  | awaitingWriter code deadline =>
    rw [step]
    cases hwriter : look.writer with
    | unfinished => exact moves_untilDeadline (.inputWaits hwriter) .inputExpired
    | failed cause => exact .lateInputFailed hwriter
    | complete => exact .written (.inl hwriter)
    | unread => exact .written (.inr hwriter)
  | awaitingStdout code deadline =>
    rw [step]
    cases hstdout : look.stdout with
    | some out => exact .stdoutClosed hstdout
    | none => exact moves_untilDeadline (fun hearly => .drains rfl hearly) .stdoutExpired
  | awaitingStderr code deadline stdout =>
    rw [step]
    cases hstderr : look.stderr with
    | some err => exact .concluded hstderr nofun
    | none =>
      exact moves_untilDeadline (fun hearly => .drains rfl hearly)
        fun hlate => .concluded hstderr fun _ => hlate
  | discardingStdout error failed => exact moves_discard look.stdout rfl rfl .discarded
  | discardingStderr error failed => exact moves_discard look.stderr rfl rfl .failed

/-- How the writing of the input ended, if a look showed its end. -/
def writerEnd? (seen : List Look) : Option WriterState :=
  (seen.map Look.writer).find? fun s => decide (s ≠ .unfinished)

/-- How the program ended, if a look showed its end. -/
def childEnd? (seen : List Look) : Option ChildState :=
  (seen.map Look.child).find? fun s => decide (s ≠ .running)

/-- The input was taken, or nobody wanted it. -/
def IsFed (seen : List Look) : Prop :=
  writerEnd? seen = some .complete ∨ writerEnd? seen = some .unread

/-- The program ended by itself, and the system was asked for its code. -/
def IsCollected (seen : List Look) (acts : List Act) (code : Int) : Prop :=
  acts = [.collect code] ∧ childEnd? seen = some (.exited code)

/-- The limit was over at one of the looks. -/
def IsOverdue (w : Watch) (seen : List Look) : Prop :=
  ∃ look ∈ seen, w.start.nanoseconds + w.limit.nanoseconds ≤ look.now.nanoseconds

/-- A stream was seen with these bytes. -/
def IsShown (stream : Look → Option Bytes) (bytes : Bytes) (seen : List Look) : Prop :=
  ∃ look ∈ seen, stream look = some bytes

/-- What the looks must have shown before a call fails. -/
inductive Fails (w : Watch) (seen : List Look) : EngineError → Prop
  | timeout (late : IsOverdue w seen) : Fails w seen (.timeout w.limit)
  | input {cause : String} (writer : writerEnd? seen = some (.failed cause)) :
      Fails w seen (.input cause)
  | io {cause : String} (child : childEnd? seen = some (.unknown cause)) : Fails w seen (.io cause)

theorem writerEnd?_concat {seen : List Look} {look : Look} (h : writerEnd? seen = none)
    (hended : look.writer ≠ .unfinished) : writerEnd? (seen ++ [look]) = some look.writer := by
  rw [writerEnd?, List.map_append, List.find?_append, ← writerEnd?, h]
  simp [hended]

theorem writerEnd?_concat_of_unfinished {seen : List Look} {look : Look}
    (h : writerEnd? seen = none) (hgoes : look.writer = .unfinished) :
    writerEnd? (seen ++ [look]) = none := by
  rw [writerEnd?, List.map_append, List.find?_append, ← writerEnd?, h]
  simp [hgoes]

theorem writerEnd?_append_of_some {seen : List Look} {s : WriterState}
    (h : writerEnd? seen = some s) (more : List Look) : writerEnd? (seen ++ more) = some s := by
  rw [writerEnd?, List.map_append, List.find?_append, ← writerEnd?, h, Option.some_or]

theorem childEnd?_concat {seen : List Look} {look : Look} (h : childEnd? seen = none)
    (hended : look.child ≠ .running) : childEnd? (seen ++ [look]) = some look.child := by
  rw [childEnd?, List.map_append, List.find?_append, ← childEnd?, h]
  simp [hended]

theorem childEnd?_concat_of_running {seen : List Look} {look : Look} (h : childEnd? seen = none)
    (hruns : look.child = .running) : childEnd? (seen ++ [look]) = none := by
  rw [childEnd?, List.map_append, List.find?_append, ← childEnd?, h]
  simp [hruns]

theorem childEnd?_append_of_some {seen : List Look} {s : ChildState}
    (h : childEnd? seen = some s) (more : List Look) : childEnd? (seen ++ more) = some s := by
  rw [childEnd?, List.map_append, List.find?_append, ← childEnd?, h, Option.some_or]

theorem IsFed.append {seen : List Look} (h : IsFed seen) (more : List Look) :
    IsFed (seen ++ more) :=
  h.imp (writerEnd?_append_of_some · more) (writerEnd?_append_of_some · more)

theorem IsCollected.append {seen : List Look} {acts : List Act} {code : Int}
    (h : IsCollected seen acts code) (more : List Look) : IsCollected (seen ++ more) acts code :=
  ⟨h.1, childEnd?_append_of_some h.2 more⟩

theorem IsOverdue.append {w : Watch} {seen : List Look} (h : IsOverdue w seen)
    (more : List Look) : IsOverdue w (seen ++ more) :=
  let ⟨look, hmem, hlate⟩ := h
  ⟨look, List.mem_append_left more hmem, hlate⟩

theorem IsShown.append {stream : Look → Option Bytes} {bytes : Bytes} {seen : List Look}
    (h : IsShown stream bytes seen) (more : List Look) : IsShown stream bytes (seen ++ more) :=
  let ⟨look, hmem, hshown⟩ := h
  ⟨look, List.mem_append_left more hmem, hshown⟩

theorem Fails.append {w : Watch} {seen : List Look} {e : EngineError} (h : Fails w seen e)
    (more : List Look) : Fails w (seen ++ more) e := by
  cases h with
  | timeout late => exact .timeout (late.append more)
  | input writer => exact .input (writerEnd?_append_of_some writer more)
  | io child => exact .io (childEnd?_append_of_some child more)

/-- What is known of the input by a phase that watches its writing, or no longer does. -/
def InputKnown (writing : Bool) (seen : List Look) : Prop :=
  if writing then writerEnd? seen = none else IsFed seen

theorem InputKnown.concat {writing : Bool} {seen : List Look} {look : Look}
    (h : InputKnown writing seen) (hsound : WritesSoundly writing look) :
    InputKnown (goesOn writing look) (seen ++ [look]) := by
  cases writing with
  | false => exact IsFed.append h [look]
  | true =>
    have hnone : writerEnd? seen = none := h
    cases hwriter : look.writer with
    | unfinished =>
      rw [goesOn, hwriter]
      exact writerEnd?_concat_of_unfinished hnone hwriter
    | failed cause => exact absurd hwriter (hsound rfl cause)
    | complete =>
      rw [goesOn, hwriter]
      exact .inl (hwriter ▸ writerEnd?_concat hnone (by rw [hwriter]; nofun))
    | unread =>
      rw [goesOn, hwriter]
      exact .inr (hwriter ▸ writerEnd?_concat hnone (by rw [hwriter]; nofun))

/-- The program ended by itself, and its streams have until the deadline. -/
structure HasEnded (w : Watch) (seen : List Look) (acts : List Act) (code : Int)
    (deadline : Instant) : Prop where
  collected : IsCollected seen acts code
  due : w.start.after? w.limit = some deadline

/-- The program is gone: it ended by itself, or was killed and waited for. -/
def IsReaped (w : Watch) (seen : List Look) (acts : List Act) : Prop :=
  acts = [.kill, .wait] ∨ ∃ code deadline, HasEnded w seen acts code deadline

/-- What is known of a stream that was taken, or given up. -/
def IsTaken (w : Watch) (stream : Look → Option Bytes) (taken : Option Bytes)
    (seen : List Look) : Prop :=
  match taken with
  | some bytes => IsShown stream bytes seen
  | none => IsOverdue w seen

/-- What is known in a phase. -/
def Reached (w : Watch) (seen : List Look) (acts : List Act) : Phase → Prop
  | .running writing => acts = [] ∧ childEnd? seen = none ∧ InputKnown writing seen
  | .awaitingWriter code deadline => HasEnded w seen acts code deadline ∧ writerEnd? seen = none
  | .awaitingStdout code deadline => HasEnded w seen acts code deadline ∧ IsFed seen
  | .awaitingStderr code deadline stdout =>
    HasEnded w seen acts code deadline ∧ IsFed seen ∧ IsTaken w Look.stdout stdout seen
  | .discardingStdout error _ | .discardingStderr error _ =>
    IsReaped w seen acts ∧ Fails w seen error

/-- What is known when there is a verdict. -/
def Justified (w : Watch) (seen : List Look) (acts : List Act) : Verdict → Prop
  | .answered (.ok c) =>
    (∃ deadline, HasEnded w seen acts c.exitCode deadline) ∧ IsFed seen ∧
      IsShown Look.stdout c.stdout seen ∧ IsShown Look.stderr c.stderr seen
  | .answered (.error e) => IsReaped w seen acts ∧ Fails w seen e
  | .beyondClock => (∃ code, IsCollected seen acts code) ∧ w.start.after? w.limit = none

/-- What is known after a look. -/
def Follows (w : Watch) (seen : List Look) (acts : List Act) : Progress → Prop
  | .again phase | .later phase => Reached w seen acts phase
  | .finished verdict => Justified w seen acts verdict

theorem HasEnded.append {w : Watch} {seen : List Look} {acts : List Act} {code : Int}
    {deadline : Instant} (h : HasEnded w seen acts code deadline) (more : List Look) :
    HasEnded w (seen ++ more) acts code deadline :=
  ⟨h.collected.append more, h.due⟩

theorem IsReaped.append {w : Watch} {seen : List Look} {acts : List Act} (h : IsReaped w seen acts)
    (more : List Look) : IsReaped w (seen ++ more) acts :=
  h.imp_right fun ⟨code, deadline, hended⟩ => ⟨code, deadline, hended.append more⟩

theorem after?_nanoseconds {start deadline : Instant} {limit : Duration}
    (h : start.after? limit = some deadline) :
    deadline.nanoseconds = start.nanoseconds + limit.nanoseconds := by
  rw [Instant.after?, Option.ite_none_right_eq_some] at h
  rw [← Option.some.inj h.2]

/-- A look at the deadline or later shows that the limit is over. -/
theorem HasEnded.isOverdue {w : Watch} {seen : List Look} {acts : List Act} {code : Int}
    {deadline : Instant} (h : HasEnded w seen acts code deadline) {look : Look}
    (hlate : deadline.nanoseconds ≤ look.now.nanoseconds) : IsOverdue w (seen ++ [look]) :=
  ⟨look, List.mem_append_right seen (List.mem_singleton_self look),
    after?_nanoseconds h.due ▸ hlate⟩

theorem IsTaken.append {w : Watch} {stream : Look → Option Bytes} {taken : Option Bytes}
    {seen : List Look} (h : IsTaken w stream taken seen) (more : List Look) :
    IsTaken w stream taken (seen ++ more) := by
  cases taken with
  | some bytes => exact IsShown.append h more
  | none => exact IsOverdue.append h more

theorem Reached.append {w : Watch} {seen : List Look} {acts : List Act} {phase : Phase}
    (h : Reached w seen acts phase) (hdraining : phase.isDraining = true) (more : List Look) :
    Reached w (seen ++ more) acts phase := by
  cases phase with
  | running => cases hdraining
  | awaitingWriter => cases hdraining
  | awaitingStdout => exact ⟨h.1.append more, h.2.append more⟩
  | awaitingStderr => exact ⟨h.1.append more, h.2.1.append more, h.2.2.append more⟩
  | discardingStdout => exact ⟨h.1.append more, h.2.append more⟩
  | discardingStderr => exact ⟨h.1.append more, h.2.append more⟩

theorem follows_afterExit {w : Watch} {seen : List Look} {acts : List Act} {code : Int}
    {writing : Bool} (hcollected : IsCollected seen acts code) (hinput : InputKnown writing seen) :
    Follows w seen acts (afterExit w writing code) := by
  rw [afterExit]
  cases hdeadline : w.start.after? w.limit with
  | none => exact ⟨⟨code, hcollected⟩, hdeadline⟩
  | some deadline =>
    cases writing with
    | false => exact ⟨⟨hcollected, hdeadline⟩, hinput⟩
    | true => exact ⟨⟨hcollected, hdeadline⟩, hinput⟩

theorem follows_conclude {w : Watch} {seen : List Look} {acts : List Act} {code : Int}
    {deadline : Instant} (now : Instant) {stdout stderr : Option Bytes}
    (hended : HasEnded w seen acts code deadline) (hfed : IsFed seen)
    (hstdout : IsTaken w Look.stdout stdout seen) (hstderr : IsTaken w Look.stderr stderr seen) :
    Follows w seen acts (conclude w code now stdout stderr) := by
  have hreaped : IsReaped w seen acts := .inr ⟨code, deadline, hended⟩
  cases stdout with
  | none => exact ⟨hreaped, .timeout hstdout⟩
  | some out =>
    cases stderr with
    | none => exact ⟨hreaped, .timeout hstderr⟩
    | some err => exact ⟨⟨deadline, hended⟩, hfed, hstdout, hstderr⟩

/-- One look keeps to what is known, if its clock is not behind the start. -/
theorem Moves.follows {w : Watch} {look : Look} {phase : Phase} {done : List Act}
    {progress : Progress} (hmoves : Moves w look phase done progress)
    (hclock : w.start.nanoseconds ≤ look.now.nanoseconds) {seen : List Look} {acts : List Act}
    (h : Reached w seen acts phase) : Follows w (seen ++ [look]) (acts ++ done) progress := by
  have hlast : look ∈ seen ++ [look] :=
    List.mem_append_right seen (List.mem_singleton_self look)
  cases hmoves with
  | inputFailed writer =>
    obtain ⟨rfl, -, hinput⟩ := h
    exact ⟨.inl rfl, .input (writer ▸ writerEnd?_concat hinput (by rw [writer]; nofun))⟩
  | exited sound child =>
    obtain ⟨rfl, hrunning, hinput⟩ := h
    have hended := childEnd?_concat hrunning (by rw [child]; nofun)
    exact follows_afterExit ⟨rfl, child ▸ hended⟩ (hinput.concat sound)
  | unknown child =>
    obtain ⟨rfl, hrunning, -⟩ := h
    exact ⟨.inl rfl, .io (child ▸ childEnd?_concat hrunning (by rw [child]; nofun))⟩
  | expired _ late =>
    obtain ⟨rfl, -, -⟩ := h
    have hlate : w.limit.nanoseconds ≤ look.now.nanoseconds - w.start.nanoseconds := late
    exact ⟨.inl rfl, .timeout ⟨look, hlast, by omega⟩⟩
  | running sound child _ =>
    obtain ⟨rfl, hrunning, hinput⟩ := h
    exact ⟨rfl, childEnd?_concat_of_running hrunning child, hinput.concat sound⟩
  | written writer =>
    rw [List.append_nil]
    have hended : look.writer ≠ .unfinished := by
      rcases writer with hwriter | hwriter <;> rw [hwriter] <;> nofun
    have hfed : IsFed (seen ++ [look]) := by
      rw [IsFed, writerEnd?_concat h.2 hended]
      exact writer.imp (congrArg some) (congrArg some)
    exact ⟨h.1.append [look], hfed⟩
  | lateInputFailed writer =>
    rw [List.append_nil]
    exact ⟨.inr ⟨_, _, h.1.append [look]⟩,
      .input (writer ▸ writerEnd?_concat h.2 (by rw [writer]; nofun))⟩
  | inputExpired late =>
    rw [List.append_nil]
    exact ⟨.inr ⟨_, _, h.1.append [look]⟩, .timeout (h.1.isOverdue late)⟩
  | stdoutClosed stdout =>
    rw [List.append_nil]
    exact ⟨h.1.append [look], h.2.append [look], look, hlast, stdout⟩
  | stdoutExpired late =>
    rw [List.append_nil]
    exact ⟨h.1.append [look], h.2.append [look], h.1.isOverdue late⟩
  | @concluded _ _ _ stderr shown due =>
    rw [List.append_nil]
    have hstderr : IsTaken w Look.stderr stderr (seen ++ [look]) := by
      cases stderr with
      | none => exact h.1.isOverdue (due rfl)
      | some err => exact ⟨look, hlast, shown⟩
    exact follows_conclude look.now (h.1.append [look]) (h.2.1.append [look])
      (h.2.2.append [look]) hstderr
  | discarded =>
    rw [List.append_nil]
    exact ⟨h.1.append [look], h.2.append [look]⟩
  | failed =>
    rw [List.append_nil]
    exact ⟨h.1.append [look], h.2.append [look]⟩
  | inputWaits writer _ =>
    rw [List.append_nil]
    exact ⟨h.1.append [look], writerEnd?_concat_of_unfinished h.2 writer⟩
  | drains draining _ =>
    rw [List.append_nil]
    exact h.append draining [look]

/-- The phase in which the next look is made, if there is one. -/
def Progress.next? : Progress → Option Phase
  | .again phase | .later phase => some phase
  | .finished _ => none

theorem run_cons_of_finished {w : Watch} {phase : Phase} {look : Look} {verdict : Verdict}
    (h : (step w phase look).2 = .finished verdict) (rest : List Look) :
    run w phase (look :: rest) = ((step w phase look).1, some verdict) := by
  rw [run, show step w phase look = ((step w phase look).1, .finished verdict) from h ▸ rfl]

theorem run_cons {w : Watch} {phase next : Phase} {look : Look}
    (h : (step w phase look).2.next? = some next) (rest : List Look) :
    run w phase (look :: rest) =
      ((step w phase look).1 ++ (run w next rest).1, (run w next rest).2) := by
  rw [run]
  cases hprogress : (step w phase look).2 with
  | finished verdict => rw [hprogress] at h; cases h
  | again phase' =>
    rw [hprogress] at h
    cases h
    rw [show step w phase look = ((step w phase look).1, .again next) from hprogress ▸ rfl]
  | later phase' =>
    rw [hprogress] at h
    cases h
    rw [show step w phase look = ((step w phase look).1, .later next) from hprogress ▸ rfl]

theorem Follows.reached {w : Watch} {seen : List Look} {acts : List Act} {progress : Progress}
    (h : Follows w seen acts progress) {next : Phase} (hnext : progress.next? = some next) :
    Reached w seen acts next := by
  cases progress with
  | finished verdict => cases hnext
  | again phase => cases hnext; exact h
  | later phase => cases hnext; exact h

/-- A verdict is given at the last of the looks that it rests on. -/
theorem run_justified {w : Watch} {looks : List Look}
    (hclock : ∀ look ∈ looks, w.start.nanoseconds ≤ look.now.nanoseconds) {phase : Phase}
    {seen : List Look} {acts more : List Act} {verdict : Verdict} (h : Reached w seen acts phase)
    (hrun : run w phase looks = (more, some verdict)) :
    ∃ front rest, looks = front ++ rest ∧
      (∀ k < front.length, (run w phase (looks.take k)).2 = none) ∧
      Justified w (seen ++ front) (acts ++ more) verdict := by
  induction looks generalizing phase seen acts more with
  | nil => cases hrun
  | cons look rest ih =>
    have hfollows := (step_moves w phase look).follows
      (hclock look List.mem_cons_self) h
    cases hnext : (step w phase look).2.next? with
    | none =>
      cases hprogress : (step w phase look).2 with
      | again => rw [hprogress] at hnext; cases hnext
      | later => rw [hprogress] at hnext; cases hnext
      | finished verdict' =>
        rw [run_cons_of_finished hprogress] at hrun
        cases hrun
        rw [hprogress] at hfollows
        refine ⟨[look], rest, rfl, fun k hk => ?_, hfollows⟩
        rw [Nat.lt_one_iff.mp hk]
        rfl
    | some next =>
      rw [run_cons hnext] at hrun
      obtain ⟨rfl, hverdict⟩ := Prod.mk.inj hrun
      obtain ⟨front, rest', rfl, hearlier, hjustified⟩ :=
        ih (fun l hl => hclock l (List.mem_cons_of_mem look hl)) (hfollows.reached hnext)
          (Prod.ext rfl hverdict)
      refine ⟨look :: front, rest', rfl, fun k hk => ?_, ?_⟩
      · cases k with
        | zero => rfl
        | succ k =>
          rw [List.take_succ_cons, run_cons hnext]
          exact hearlier k (Nat.lt_of_succ_lt_succ hk)
      · rw [List.append_assoc, List.append_assoc] at hjustified
        exact hjustified

/-- Before the first look a program runs, and its input is being written. -/
theorem reached_start (w : Watch) : Reached w [] [] (.running true) := ⟨rfl, rfl, rfl⟩

/-- Whatever the looks show in whatever order, if no clock is behind the start: an answer is given
at the last of the looks that it rests on, and no earlier. Then the program is gone, collected or
killed and waited for; a capture holds the code that was collected and the bytes that were seen of
both streams, once the input was taken or nobody wanted it; a timeout is that of the limit, after a
look at which it was over; and failed input is what the end of the writing showed. -/
theorem answer_rests_on_looks {w : Watch} {looks : List Look} {acts : List Act}
    {answer : Except EngineError Capture}
    (hclock : ∀ look ∈ looks, w.start.nanoseconds ≤ look.now.nanoseconds)
    (h : run w (.running true) looks = (acts, some (.answered answer))) :
    ∃ seen rest, looks = seen ++ rest ∧
      (∀ k < seen.length, (run w (.running true) (looks.take k)).2 = none) ∧
      (acts = [.kill, .wait] ∨
        ∃ code, acts = [.collect code] ∧ childEnd? seen = some (.exited code)) ∧
      (∀ c, answer = .ok c →
        acts = [.collect c.exitCode] ∧ childEnd? seen = some (.exited c.exitCode) ∧
        (writerEnd? seen = some .complete ∨ writerEnd? seen = some .unread) ∧
        (∃ look ∈ seen, look.stdout = some c.stdout) ∧
        ∃ look ∈ seen, look.stderr = some c.stderr) ∧
      (∀ limit, answer = .error (.timeout limit) →
        limit = w.limit ∧
        ∃ look ∈ seen, w.start.nanoseconds + w.limit.nanoseconds ≤ look.now.nanoseconds) ∧
      ∀ cause, answer = .error (.input cause) → writerEnd? seen = some (.failed cause) := by
  obtain ⟨seen, rest, hlooks, hearlier, hjustified⟩ := run_justified hclock (reached_start w) h
  refine ⟨seen, rest, hlooks, hearlier, ?_⟩
  rw [List.nil_append, List.nil_append] at hjustified
  cases answer with
  | ok c =>
    obtain ⟨⟨_, hended⟩, hfed, hstdout, hstderr⟩ := hjustified
    refine ⟨.inr ⟨_, hended.collected⟩, fun c' hc => ?_, nofun, nofun⟩
    cases hc
    exact ⟨hended.collected.1, hended.collected.2, hfed, hstdout, hstderr⟩
  | error e =>
    obtain ⟨hreaped, hfails⟩ := hjustified
    refine ⟨hreaped.imp_right fun ⟨code, _, hended⟩ => ⟨code, hended.collected⟩, nofun,
      fun limit hlimit => ?_, fun cause hcause => ?_⟩
    · cases hlimit
      cases hfails with
      | timeout late => exact ⟨rfl, late⟩
    · cases hcause
      cases hfails with
      | input writer => exact writer

/-- A program that prints a line and ends within a second. -/
theorem answer_rests_on_looks_of_prompt_program :
    let looks : List Look :=
      [⟨⟨0⟩, .unfinished, .running, none, none⟩, ⟨⟨5000000⟩, .complete, .exited 3, none, none⟩,
        ⟨⟨5000000⟩, .complete, .exited 3, some [104, 105, 10], none⟩,
        ⟨⟨10000000⟩, .complete, .exited 3, some [104, 105, 10], some []⟩]
    let capture : Capture := ⟨3, [104, 105, 10], [], some ⟨10000000⟩⟩
    (∀ look ∈ looks, 0 ≤ look.now.nanoseconds) ∧
      run ⟨⟨0⟩, .ofSeconds 1⟩ (.running true) looks =
        ([.collect 3], some (.answered (.ok capture))) ∧
      ∃ seen rest, looks = seen ++ rest ∧ childEnd? seen = some (.exited 3) ∧
        ∃ look ∈ seen, look.stdout = some [104, 105, 10] := by
  intro looks capture
  have hclock : ∀ look ∈ looks, 0 ≤ look.now.nanoseconds := fun look _ => Nat.zero_le _
  have hrun : run ⟨⟨0⟩, .ofSeconds 1⟩ (.running true) looks =
      ([.collect 3], some (.answered (.ok capture))) := rfl
  obtain ⟨seen, rest, hlooks, -, -, hcapture, -⟩ := answer_rests_on_looks hclock hrun
  obtain ⟨-, hchild, -, hstdout, -⟩ := hcapture capture rfl
  exact ⟨hclock, hrun, seen, rest, hlooks, hchild, hstdout⟩

end Supervisor
end EngineTrials
