import EngineTrials.Engine.Life
import EngineTrials.Proofs.Supervision

/-!
# How supervision ends

No phase outlives its time: a look that does not lead on to a later phase is one before the phase is
over. So a supervisor that is looked through by a clock without end comes to a verdict, and one that
looks at regular intervals does so within the number of looks that it is allowed.
-/
namespace EngineTrials
namespace Supervisor

/-- How many phases can follow on one at most. -/
def Phase.rank : Phase → Nat
  | .running true => 6
  | .running false => 5
  | .awaitingWriter .. => 4
  | .awaitingStdout .. => 3
  | .awaitingStderr .. => 2
  | .discardingStdout .. => 1
  | .discardingStderr .. => 0

theorem rank_goesOn (writing : Bool) (look : Look) :
    goesOn writing look = writing ∨
      (Phase.running (goesOn writing look)).rank < (Phase.running writing).rank := by
  cases writing with
  | false => exact .inl rfl
  | true =>
    rw [goesOn, Bool.true_and]
    cases decide (look.writer = .unfinished) with
    | false => exact .inr (by decide)
    | true => exact .inl rfl

theorem rank_afterExit {w : Watch} {writing : Bool} {code : Int} {next : Phase}
    (h : (afterExit w writing code).next? = some next) : next.rank ≤ 4 := by
  rw [afterExit] at h
  cases hdeadline : w.start.after? w.limit with
  | none => rw [hdeadline] at h; cases h
  | some deadline =>
    rw [hdeadline] at h
    cases writing with
    | false => cases h; exact Nat.le_succ 3
    | true => cases h; exact Nat.le_refl 4

theorem next?_conclude (w : Watch) (code : Int) (now : Instant)
    (stdout stderr : Option Text.Bytes) : (conclude w code now stdout stderr).next? = none := by
  cases stdout with
  | none => rfl
  | some out => cases stderr <;> rfl

theorem rank_running (writing : Bool) : 4 < (Phase.running writing).rank := by
  cases writing <;> decide

/-- A look leads on to a later phase, or the phase is not over. -/
theorem Moves.leads_on {w : Watch} {look : Look} {phase : Phase} {done : List Act}
    {progress : Progress} (h : Moves w look phase done progress) {next : Phase}
    (hnext : progress.next? = some next) :
    next.rank < phase.rank ∨ next = phase ∧ look.now.nanoseconds < phase.latest w := by
  cases h with
  | @exited writing =>
    exact .inl (Nat.lt_of_le_of_lt (rank_afterExit hnext) (rank_running writing))
  | @unknown writing =>
    cases hnext
    exact .inl (Nat.lt_trans (show 1 < 4 by decide) (rank_running writing))
  | @expired writing =>
    cases hnext
    exact .inl (Nat.lt_trans (show 1 < 4 by decide) (rank_running writing))
  | @running writing _ _ early =>
    cases hnext
    have hearly : look.now.nanoseconds - w.start.nanoseconds < w.limit.nanoseconds := early
    rcases rank_goesOn writing look with hsame | hlower
    · exact .inr ⟨congrArg Phase.running hsame, by rw [Phase.latest]; omega⟩
    · exact .inl hlower
  | concluded => rw [next?_conclude] at hnext; cases hnext
  | failed => cases hnext
  | inputWaits _ early => cases hnext; exact .inr ⟨rfl, early⟩
  | drains _ early => cases hnext; exact .inr ⟨rfl, early⟩
  | inputFailed => cases hnext; exact .inl (show 1 < 6 by decide)
  | written => cases hnext; exact .inl (Nat.lt_succ_self 3)
  | lateInputFailed => cases hnext; exact .inl (show 1 < 4 by decide)
  | inputExpired => cases hnext; exact .inl (show 1 < 4 by decide)
  | stdoutClosed => cases hnext; exact .inl (Nat.lt_succ_self 2)
  | stdoutExpired => cases hnext; exact .inl (Nat.lt_succ_self 2)
  | discarded => cases hnext; exact .inl (Nat.lt_succ_self 0)

/-- The first looks of a sequence. -/
def front (looks : Nat → Look) (n : Nat) : List Look := (List.range n).map looks

theorem front_succ (looks : Nat → Look) (n : Nat) :
    front looks (n + 1) = looks 0 :: front (fun i => looks (i + 1)) n := by
  rw [front, List.range_succ_eq_map, List.map_cons, List.map_map]
  rfl

/-- The clock of the looks goes beyond every instant. -/
def IsEndless (looks : Nat → Look) : Prop :=
  ∀ t, ∃ n, ∀ m, n ≤ m → t ≤ (looks m).now.nanoseconds

theorem IsEndless.succ {looks : Nat → Look} (h : IsEndless looks) :
    IsEndless fun i => looks (i + 1) := fun t =>
  let ⟨n, hlate⟩ := h t
  ⟨n, fun m hm => hlate (m + 1) (Nat.le_succ_of_le hm)⟩

/-- A verdict after the first look, or a verdict after later ones. -/
theorem exists_verdict_of_next {w : Watch} {phase : Phase} {looks : Nat → Look}
    (h : ∀ next, (step w phase (looks 0)).2.next? = some next →
      ∃ n acts verdict, run w next (front (fun i => looks (i + 1)) n) = (acts, some verdict)) :
    ∃ n acts verdict, run w phase (front looks n) = (acts, some verdict) := by
  cases hprogress : (step w phase (looks 0)).2 with
  | finished verdict =>
    refine ⟨1, (step w phase (looks 0)).1, verdict, ?_⟩
    rw [front_succ, run_cons_of_finished hprogress]
  | again next | later next =>
    have hnext : (step w phase (looks 0)).2.next? = some next := by
      rw [hprogress]
      rfl
    obtain ⟨n, acts, verdict, hrun⟩ := h next hnext
    refine ⟨n + 1, (step w phase (looks 0)).1 ++ acts, verdict, ?_⟩
    rw [front_succ, run_cons hnext, hrun]

/-- There is a verdict after finitely many looks. -/
theorem exists_verdict (w : Watch) (phase : Phase) (looks : Nat → Look) (hclock : IsEndless looks) :
    ∃ n acts verdict, run w phase (front looks n) = (acts, some verdict) := by
  -- A phase is left for good by the time it is over, so the induction is on the phases to come, and
  -- within one on the looks until then.
  induction hrank : phase.rank using Nat.strongRecOn generalizing phase looks with
  | ind rank lower =>
    subst hrank
    obtain ⟨n, hlate⟩ := hclock (phase.latest w)
    induction n generalizing looks with
    | zero =>
      refine exists_verdict_of_next fun next hnext => ?_
      rcases (step_moves w phase (looks 0)).leads_on hnext with hlower | ⟨-, hearly⟩
      · exact lower next.rank hlower next _ hclock.succ rfl
      · exact absurd (hlate 0 (Nat.le_refl 0)) (Nat.not_le_of_lt hearly)
    | succ n ih =>
      refine exists_verdict_of_next fun next hnext => ?_
      rcases (step_moves w phase (looks 0)).leads_on hnext with hlower | ⟨rfl, -⟩
      · exact lower next.rank hlower next _ hclock.succ rfl
      · exact ih _ hclock.succ fun m hm => hlate (m + 1) (Nat.succ_le_succ hm)

/-- How many looks are made before an instant, in nanoseconds. -/
def looksUntil (t : Nat) (now : Instant) : Nat :=
  (t - now.nanoseconds + (interval.nanoseconds - 1)) / interval.nanoseconds

/-- How many looks a phase and those after it take, beyond the ones before the phase is over. -/
def Phase.looksAfter : Phase → Nat
  | .running _ => grace.nanoseconds / interval.nanoseconds + 4
  | .awaitingWriter .. => grace.nanoseconds / interval.nanoseconds + 3
  | .awaitingStdout .. | .discardingStdout .. => 2
  | .awaitingStderr .. | .discardingStderr .. => 1

/-- How many looks there can be from a phase on. -/
def Phase.patience (w : Watch) (now : Instant) (phase : Phase) : Nat :=
  looksUntil (phase.latest w) now + phase.looksAfter

def Progress.patience (w : Watch) (now : Instant) : Progress → Nat
  | .again phase => phase.patience w now
  | .later phase => phase.patience w ⟨now.nanoseconds + interval.nanoseconds⟩
  | .finished _ => 0

theorem looksUntil_later {t : Nat} {now : Instant} (h : now.nanoseconds < t) :
    looksUntil t ⟨now.nanoseconds + interval.nanoseconds⟩ < looksUntil t now := by
  have hinterval : interval.nanoseconds = 5000000 := rfl
  simp only [looksUntil, hinterval]
  omega

theorem looksUntil_grace (now : Instant) :
    looksUntil (now.nanoseconds + grace.nanoseconds) now =
      grace.nanoseconds / interval.nanoseconds := by
  rw [looksUntil, Nat.add_sub_cancel_left]
  rfl

theorem patience_discardingStdout (w : Watch) (e : EngineError) (now : Instant) :
    (Phase.discardingStdout e now).patience w now =
      grace.nanoseconds / interval.nanoseconds + 2 :=
  congrArg (· + 2) (looksUntil_grace now)

theorem patience_later {w : Watch} {phase : Phase} {now : Instant}
    (h : now.nanoseconds < phase.latest w) :
    phase.patience w ⟨now.nanoseconds + interval.nanoseconds⟩ < phase.patience w now :=
  Nat.add_lt_add_right (looksUntil_later h) phase.looksAfter

theorem patience_afterExit (w : Watch) (writing watched : Bool) (code : Int) (now : Instant) :
    (afterExit w writing code).patience w now < (Phase.running watched).patience w now := by
  rw [afterExit]
  cases hdeadline : w.start.after? w.limit with
  | none => exact Nat.succ_pos _
  | some deadline =>
    have hsame : looksUntil deadline.nanoseconds now =
        looksUntil (w.start.nanoseconds + w.limit.nanoseconds) now := by
      rw [after?_nanoseconds hdeadline]
    cases writing with
    | true => exact Nat.add_lt_add_of_le_of_lt (Nat.le_of_eq hsame) (Nat.lt_succ_self _)
    | false =>
      exact Nat.add_lt_add_of_le_of_lt (Nat.le_of_eq hsame)
        (show 2 < grace.nanoseconds / interval.nanoseconds + 4 by decide)

theorem patience_conclude (w : Watch) (code : Int) (now : Instant)
    (stdout stderr : Option Text.Bytes) :
    (conclude w code now stdout stderr).patience w now = 0 := by
  cases stdout with
  | none => rfl
  | some out => cases stderr <;> rfl

/-- Each look uses up some of the patience. -/
theorem Moves.patience_lt {w : Watch} {look : Look} {phase : Phase} {done : List Act}
    {progress : Progress} (h : Moves w look phase done progress) :
    progress.patience w look.now < phase.patience w look.now := by
  cases h with
  | exited => exact patience_afterExit w _ _ _ look.now
  | running _ _ early =>
    have hearly : look.now.nanoseconds - w.start.nanoseconds < w.limit.nanoseconds := early
    have hopen : look.now.nanoseconds < w.start.nanoseconds + w.limit.nanoseconds := by omega
    exact Nat.add_lt_add_right (looksUntil_later hopen) _
  | inputWaits _ early => exact patience_later early
  | drains _ early => exact patience_later early
  | inputFailed | unknown | expired =>
    rw [Progress.patience, patience_discardingStdout]
    exact Nat.lt_of_lt_of_le (Nat.lt_add_of_pos_right (Nat.succ_pos 1)) (Nat.le_add_left _ _)
  | lateInputFailed | inputExpired =>
    rw [Progress.patience, patience_discardingStdout]
    exact Nat.lt_of_lt_of_le (Nat.lt_succ_self _) (Nat.le_add_left _ _)
  | written =>
    exact Nat.add_lt_add_left (show 2 < grace.nanoseconds / interval.nanoseconds + 3 by decide) _
  | stdoutClosed | stdoutExpired | discarded => exact Nat.lt_succ_self _
  | concluded =>
    rw [patience_conclude]
    exact Nat.succ_pos _
  | failed => exact Nat.succ_pos _

/-- With enough patience what is watched is a run over looks at the program. -/
theorem watch_eq_run {w : Watch} {look : Instant → Look} (hlook : ∀ t, (look t).now = t)
    (patience : Nat) (phase : Phase) (now : Instant) (h : phase.patience w now ≤ patience) :
    ∃ looks acts verdict, (∀ l ∈ looks, ∃ t, l = look t) ∧
      run w phase looks = (acts, some verdict) ∧
      watch w look patience phase now = some verdict := by
  induction patience generalizing phase now with
  | zero =>
    have hpositive : 0 < phase.patience w now := by
      have hless := (step_moves w phase (look now)).patience_lt
      rw [hlook] at hless
      exact Nat.zero_lt_of_lt hless
    exact absurd h (Nat.not_le_of_lt hpositive)
  | succ patience ih =>
    have hless := (step_moves w phase (look now)).patience_lt
    rw [hlook] at hless
    rw [watch]
    cases hprogress : (step w phase (look now)).2 with
    | finished verdict =>
      exact ⟨[look now], _, verdict, fun l hl => ⟨now, List.mem_singleton.mp hl⟩,
        run_cons_of_finished hprogress [], rfl⟩
    | again next | later next =>
      have hnext : (step w phase (look now)).2.next? = some next := by
        rw [hprogress]
        rfl
      rw [hprogress] at hless
      obtain ⟨looks, acts, verdict, hlooks, hrun, hwatch⟩ :=
        ih next _ (Nat.le_of_lt_succ (Nat.lt_of_lt_of_le hless h))
      refine ⟨look now :: looks, (step w phase (look now)).1 ++ acts, verdict, ?_, ?_, hwatch⟩
      · exact List.forall_mem_cons.mpr ⟨⟨now, rfl⟩, hlooks⟩
      · rw [run_cons hnext, hrun]

end Supervisor

/-- The supervisor of a life always comes to a verdict of its own. -/
theorem Life.supervised_eq_run (l : Life) (limit : Duration) :
    ∃ looks acts, (∀ look ∈ looks, ∃ t, look = l.look t) ∧
      Supervisor.run ⟨⟨0⟩, limit⟩ (.running true) looks = (acts, some (l.supervised limit)) := by
  have hpatience : (Supervisor.Phase.running true).patience ⟨⟨0⟩, limit⟩ ⟨0⟩ ≤
      Supervisor.patienceFor limit := by
    have hinterval : Supervisor.interval.nanoseconds = 5000000 := rfl
    simp only [Supervisor.Phase.patience, Supervisor.Phase.latest, Supervisor.looksUntil,
      Supervisor.Phase.looksAfter, Supervisor.patienceFor, hinterval]
    omega
  have hlook : ∀ t, (l.look t).now = t := fun _ => rfl
  obtain ⟨looks, acts, verdict, hlooks, hrun, hwatch⟩ :=
    Supervisor.watch_eq_run hlook _ _ _ hpatience
  refine ⟨looks, acts, hlooks, ?_⟩
  rw [Life.supervised, hwatch]
  exact hrun

end EngineTrials
