import EngineTrials.Proofs.SettingLayers
import EngineTrials.Proofs.SupervisionEnds
import EngineTrials.Proofs.Words

/-!
# Limits and the clock

A limit is read without regard to the clock. All that is known of it is that its whole seconds fit
in a word, and every number of seconds that does is a limit. The clock shows no more than half of
them, so there are limits whose deadline it cannot show. This is no matter while the program runs,
since then only the time that has passed is compared with the limit; it is when the program has
ended by itself.
-/
namespace EngineTrials
open Text

namespace Duration

/-- The whole seconds of so many nanoseconds fit in a word. -/
def FitsWord (nanoseconds : Nat) : Prop := nanoseconds / nanosPerSecond ≤ maxWord

theorem fitsWord_zero : FitsWord 0 := by
  rw [FitsWord, Nat.zero_div]
  exact Nat.zero_le maxWord

theorem withinWord?_eq_some {n m : Nat} (h : withinWord? n = some m) : n = m ∧ m ≤ maxWord := by
  rw [withinWord?, Option.ite_none_right_eq_some] at h
  obtain ⟨hn, hm⟩ := h
  cases hm
  exact ⟨rfl, hn⟩

/-- What is added up is checked as a whole, whatever it was before. -/
theorem fitsWord_of_add? {total seconds nanos sum : Nat} (h : add? total seconds nanos = some sum) :
    FitsWord sum := by
  simp only [add?, Option.bind_eq_bind, Option.bind_eq_some_iff, Option.pure_def,
    Option.some.injEq] at h
  obtain ⟨fraction, hfraction, whole, hwhole, rfl⟩ := h
  obtain ⟨rfl, -⟩ := withinWord?_eq_some hfraction
  obtain ⟨rfl, hfits⟩ := withinWord?_eq_some hwhole
  have hsecond : nanosPerSecond = 1000000000 := rfl
  rw [hsecond] at hfits
  rw [FitsWord, hsecond]
  omega

theorem fitsWord_of_addWhole? {total n sum : Nat} {size : UnitSize}
    (h : addWhole? total n size = some sum) : FitsWord sum := by
  cases size with
  | nanos k =>
    obtain ⟨_, -, hadd⟩ := Option.bind_eq_some_iff.mp h
    exact fitsWord_of_add? hadd
  | seconds k =>
    obtain ⟨_, -, hadd⟩ := Option.bind_eq_some_iff.mp h
    exact fitsWord_of_add? hadd

theorem fitsWord_of_addFraction? {total sum : Nat} {f : Fraction} {size : UnitSize}
    (h : addFraction? total f size = some sum) : FitsWord sum := by
  cases size with
  | nanos k =>
    rw [addFraction?, Option.ite_none_left_eq_some] at h
    obtain ⟨_, -, hadd⟩ := Option.bind_eq_some_iff.mp h.2
    exact fitsWord_of_add? hadd
  | seconds k =>
    rw [addFraction?] at h
    split at h
    · obtain ⟨_, -, hadd⟩ := Option.bind_eq_some_iff.mp h
      exact fitsWord_of_add? hadd
    · obtain ⟨_, -, hadd⟩ := Option.bind_eq_some_iff.mp h
      exact fitsWord_of_add? hadd

theorem fitsWord_of_addQuantity? {total n sum : Nat} {f : Option Fraction} {unit : List Char}
    (h : addQuantity? total n f unit = some sum) : FitsWord sum := by
  obtain ⟨size, -, h⟩ := Option.bind_eq_some_iff.mp h
  obtain ⟨whole, hwhole, h⟩ := Option.bind_eq_some_iff.mp h
  cases f with
  | none =>
    cases h
    exact fitsWord_of_addWhole? hwhole
  | some f => exact fitsWord_of_addFraction? h

/-- Each quantity leaves a total that fits, so the last one does. -/
theorem fitsWord_of_quantities? {total sum : Nat} {p : Position} {cs : List Char}
    (htotal : FitsWord total) (h : quantities? total p cs = some sum) : FitsWord sum := by
  fun_induction quantities? total p cs with
  | case1 | case5 | case7 | case11 | case13 | case16 | case21 | case22 => cases h
  | case2 =>
    cases h
    exact htotal
  | case17 => exact fitsWord_of_addQuantity? h
  | case18 | case19 =>
    rename_i ih
    obtain ⟨next, hnext, hrest⟩ := Option.bind_eq_some_iff.mp h
    exact ih next (fitsWord_of_addQuantity? hnext) hrest
  | case3 | case4 | case6 | case8 | case9 | case10 | case12 | case14 | case15 | case20 =>
    rename_i ih
    exact ih htotal h

theorem bounded?_eq_some {radix limit n : Nat} {cs : List Char}
    (h : bounded? radix limit cs = some n) : n ≤ limit :=
  of_decide_eq_true (Option.filter_eq_some_iff.mp h).2

theorem seconds_le_of_withUnits? {cs : List Char} {d : Duration} (h : withUnits? cs = some d) :
    d.seconds ≤ maxWord := by
  rw [withUnits?] at h
  split at h
  · cases h
    exact Nat.zero_le maxWord
  · obtain ⟨total, htotal, rfl⟩ := Option.map_eq_some_iff.mp h
    exact fitsWord_of_quantities? fitsWord_zero htotal

/-- Every duration that can be read has seconds that fit in a word. -/
theorem seconds_le_of_read? {s : String} {d : Duration} (h : read? s = some d) :
    d.seconds ≤ maxWord := by
  rw [read?] at h
  cases hunits : withUnits? (trimBlank s.toList) with
  | some d' =>
    rw [hunits, Option.orElse_some] at h
    cases h
    exact seconds_le_of_withUnits? hunits
  | none =>
    rw [hunits, Option.orElse_none] at h
    obtain ⟨n, hn, rfl⟩ := Option.map_eq_some_iff.mp h
    rw [seconds, ofSeconds, Nat.mul_div_cancel n (by decide)]
    exact bounded?_eq_some hn

theorem toNat_of_isDigit {c : Char} (h : isDigit c = true) : 48 ≤ c.toNat ∧ c.toNat ≤ 57 := by
  rw [isDigit, Bool.and_eq_true, decide_eq_true_eq, decide_eq_true_eq] at h
  exact h

theorem isBlank_of_isDigit {c : Char} (h : isDigit c = true) : isBlank c = false := by
  obtain ⟨hleast, hgreatest⟩ := toNat_of_isDigit h
  simp [isBlank]
  omega

theorem digit?_of_isDigit {c : Char} (h : isDigit c = true) :
    digit? 10 c = some (c.toNat - 48) := by
  obtain ⟨hleast, hgreatest⟩ := toNat_of_isDigit h
  rw [isDigit, Bool.and_eq_true, decide_eq_true_eq, decide_eq_true_eq] at h
  rw [digit?, if_pos h]
  exact Option.filter_some_pos (decide_eq_true (by omega))

theorem isTrimmed_of_digits {cs : List Char} (h : ∀ c ∈ cs, isDigit c = true) : IsTrimmed cs where
  first c hc := isBlank_of_isDigit (h c (List.mem_of_head? hc))
  last c hc := isBlank_of_isDigit (h c (List.mem_of_getLast? hc))

theorem foldDigits?_of_digits {cs : List Char} (h : ∀ c ∈ cs, isDigit c = true) (acc : Nat) :
    foldDigits? 10 acc cs = some (Nat.ofDigitChars 10 cs acc) := by
  induction cs generalizing acc with
  | nil => rfl
  | cons c rest ih =>
    obtain ⟨hdigit, hrest⟩ := List.forall_mem_cons.mp h
    rw [foldDigits?, digit?_of_isDigit hdigit, Nat.ofDigitChars_cons, Nat.mul_comm 10 acc]
    exact ih hrest _

theorem quantities?_whole_of_digits {cs : List Char} (h : ∀ c ∈ cs, isDigit c = true)
    (total n : Nat) : quantities? total (.whole n) cs = none := by
  induction cs generalizing n with
  | nil => rfl
  | cons c rest ih =>
    obtain ⟨hdigit, hrest⟩ := List.forall_mem_cons.mp h
    rw [quantities?, if_pos hdigit]
    split
    · exact ih hrest _
    · rfl

/-- Digits without a sign are read whole, and then held against the limit. -/
theorem bounded?_of_digits {cs : List Char} (hne : cs ≠ []) (h : ∀ c ∈ cs, isDigit c = true)
    (limit : Nat) :
    bounded? 10 limit cs =
      if Nat.ofDigitChars 10 cs 0 ≤ limit then some (Nat.ofDigitChars 10 cs 0) else none := by
  have hunsigned : ∀ digits, cs = '+' :: digits → False := by
    rintro digits rfl
    exact absurd (h '+' List.mem_cons_self) (by decide)
  rw [bounded?, natural?, foldDigits?_of_digits h, Option.filter_some]
  · simp only [decide_eq_true_eq]
  · exact hne
  · exact hunsigned

/-- Without a unit only `0` is read, as zero; every other number is rejected. -/
theorem withUnits?_of_digits {cs : List Char} (hne : cs ≠ []) (h : ∀ c ∈ cs, isDigit c = true) :
    withUnits? cs = if cs = ['0'] then some ⟨0⟩ else none := by
  obtain ⟨c, rest, rfl⟩ := List.exists_cons_of_ne_nil hne
  obtain ⟨hdigit, hrest⟩ := List.forall_mem_cons.mp h
  rw [withUnits?, quantities?, if_pos hdigit, quantities?_whole_of_digits hrest, Option.map_none]

/-- A number without a unit counts seconds, blanks around it or not, if they fit in a word. -/
theorem read?_of_digits {text : String} {front digits back : List Char}
    (htext : text.toList = front ++ (digits ++ back)) (hfront : ∀ c ∈ front, isBlank c = true)
    (hback : ∀ c ∈ back, isBlank c = true) (hne : digits ≠ [])
    (h : ∀ c ∈ digits, isDigit c = true) :
    read? text = if Nat.ofDigitChars 10 digits 0 ≤ maxWord
      then some (ofSeconds (Nat.ofDigitChars 10 digits 0)) else none := by
  rw [read?, htext, trimBlank_between hfront hback (isTrimmed_of_digits h),
    withUnits?_of_digits hne h, bounded?_of_digits hne h]
  by_cases hzero : digits = ['0']
  · rw [hzero]
    rfl
  · rw [if_neg hzero, Option.orElse_none]
    split <;> rfl

-- One second too many does not wrap around.
example : read? "18446744073709551616" = none := by decide +kernel

theorem read?_of_blank {text : String} (h : ∀ c ∈ text.toList, isBlank c = true) :
    read? text = none := by
  rw [read?, trimBlank_of_blank h]
  rfl

end Duration

namespace Config.Settings

/-- Both limits have seconds that fit in a word. -/
structure LimitsFit (s : Settings) : Prop where
  stage : s.stageTimeout.seconds ≤ maxWord
  bench : s.benchTimeout.seconds ≤ maxWord

/-- A limit that is given takes the place of one that fits, and fits as well. -/
theorem seconds_getD_le {given : Option String} {d : Duration} (h : d.seconds ≤ maxWord) :
    ((given.bind Duration.read?).getD d).seconds ≤ maxWord := by
  cases hread : given.bind Duration.read? with
  | none => exact h
  | some d' =>
    obtain ⟨text, -, htext⟩ := Option.bind_eq_some_iff.mp hread
    exact Duration.seconds_le_of_read? htext

theorem limitsFit_builtin (root : Path) (home : Option Path) : LimitsFit { root, home } where
  stage := show (Duration.ofSeconds 5).seconds ≤ maxWord by decide
  bench := show (Duration.ofSeconds 60).seconds ≤ maxWord by decide

theorem LimitsFit.withFile {s t : Settings} {f : FileSettings} (h : s.LimitsFit)
    (ht : s.withFile f = .ok t) : t.LimitsFit := by
  obtain ⟨-, hover⟩ | ⟨error, -, herror⟩ := s.withFile_cases f
  · rw [hover] at ht
    cases ht
    exact ⟨seconds_getD_le h.stage, seconds_getD_le h.bench⟩
  · rw [herror] at ht
    cases ht

theorem LimitsFit.withEnvironment {s t : Settings} {e : Environment} (h : s.LimitsFit)
    (ht : s.withEnvironment e = .ok t) : t.LimitsFit := by
  rw [withEnvironment_eq] at ht
  simp only [Environment.duration_fst] at ht
  split at ht
  · cases ht
    exact ⟨seconds_getD_le h.stage, seconds_getD_le h.bench⟩
  · cases ht

theorem LimitsFit.layered {s t : Settings} {F : Option FileSettings} {e : Environment}
    (h : s.LimitsFit) (ht : s.layered F e = .ok t) : t.LimitsFit := by
  cases F with
  | none => exact h.withEnvironment ht
  | some f =>
    rw [Settings.layered] at ht
    cases hfile : s.withFile f with
    | error _ => rw [hfile] at ht; cases ht
    | ok s' =>
      rw [hfile] at ht
      exact (h.withFile hfile).withEnvironment ht

theorem limitsFit_of_load {fs : FileSystem} {root : Path} {home named : Option Path}
    {e : Environment} {t : Settings} (ht : load fs root home named e = .ok t) : t.LimitsFit := by
  obtain ⟨F, hF, -⟩ := exists_finds_of_load ht
  rw [load_eq_layered hF] at ht
  exact (limitsFit_builtin root home).layered ht

end Config.Settings

theorem Instant.after?_eq_none_iff {start : Instant} {limit : Duration} :
    start.after? limit = none ↔
      Instant.lastSecond < (start.nanoseconds + limit.nanoseconds) / nanosPerSecond := by
  rw [Instant.after?, ite_eq_right_iff, ← Nat.not_le]
  exact ⟨fun h hle => Option.some_ne_none _ (h hle), fun h hle => absurd hle h⟩

namespace Supervisor

/-- A deadline that the clock cannot show comes to light when a program was collected, and then
always. -/
theorem verdict_eq_beyondClock_iff {w : Watch} {looks : List Look} {acts : List Act}
    {verdict : Verdict} (hclock : ∀ look ∈ looks, w.start.nanoseconds ≤ look.now.nanoseconds)
    (h : run w (.running true) looks = (acts, some verdict)) :
    verdict = .beyondClock ↔ (∃ code, acts = [.collect code]) ∧ w.start.after? w.limit = none := by
  obtain ⟨seen, -, -, -, hjustified⟩ := run_justified hclock (reached_start w) h
  rw [List.nil_append, List.nil_append] at hjustified
  cases verdict with
  | beyondClock =>
    obtain ⟨⟨code, hcollected⟩, hdeadline⟩ := hjustified
    exact ⟨fun _ => ⟨⟨code, hcollected.1⟩, hdeadline⟩, fun _ => rfl⟩
  | answered answer =>
    refine ⟨nofun, fun ⟨⟨code, hacts⟩, hnone⟩ => ?_⟩
    -- An answer to a program that was collected came after a deadline was found.
    have hended : ∃ code deadline, HasEnded w seen acts code deadline := by
      cases answer with
      | ok c =>
        obtain ⟨⟨deadline, hended⟩, -⟩ := hjustified
        exact ⟨c.exitCode, deadline, hended⟩
      | error e =>
        obtain ⟨hkilled | hended, -⟩ := hjustified
        · rw [hkilled] at hacts
          cases hacts
        · exact hended
    obtain ⟨_, deadline, hended⟩ := hended
    rw [hended.due] at hnone
    cases hnone

end Supervisor

/-- A limit that was loaded is at most as long as a word has seconds. Whatever is seen of a program
under it, there is a verdict in the end; and this is an answer unless the program was collected and
the clock cannot show the deadline. -/
theorem Config.Settings.loaded_limit_verdict {fs : FileSystem} {root : Path}
    {home named : Option Path} {e : Environment} {t : Settings}
    (hload : load fs root home named e = .ok t) {limit : Duration}
    (hlimit : limit = t.stageTimeout ∨ limit = t.benchTimeout) (start : Instant)
    {looks : Nat → Look} (hclock : Supervisor.IsEndless looks)
    (hstart : ∀ n, start.nanoseconds ≤ (looks n).now.nanoseconds) :
    limit.seconds ≤ maxWord ∧
      ∃ n acts verdict, Supervisor.run ⟨start, limit⟩ (.running true) (Supervisor.front looks n) =
          (acts, some verdict) ∧
        ((∀ answer, verdict ≠ .answered answer) ↔ (∃ code, acts = [.collect code]) ∧
          Instant.lastSecond < (start.nanoseconds + limit.nanoseconds) / nanosPerSecond) := by
  have hfits := limitsFit_of_load hload
  refine ⟨hlimit.elim (· ▸ hfits.stage) (· ▸ hfits.bench), ?_⟩
  obtain ⟨n, acts, verdict, hrun⟩ :=
    Supervisor.exists_verdict ⟨start, limit⟩ (.running true) looks hclock
  have hfront : ∀ look ∈ Supervisor.front looks n, start.nanoseconds ≤ look.now.nanoseconds := by
    intro look hlook
    obtain ⟨i, -, rfl⟩ := List.mem_map.mp hlook
    exact hstart i
  refine ⟨n, acts, verdict, hrun, ?_⟩
  rw [← Instant.after?_eq_none_iff, ← Supervisor.verdict_eq_beyondClock_iff hfront hrun]
  cases verdict with
  | beyondClock => exact ⟨fun _ => rfl, fun _ => nofun⟩
  | answered answer => exact ⟨fun h => absurd rfl (h answer), nofun⟩

/-- With the limits that are built in, a program that ends at once is answered. -/
theorem Config.Settings.loaded_limit_verdict_builtin :
    let looks : Nat → Look := fun n => ⟨⟨n⟩, .complete, .exited 0, some [], some []⟩
    load ⟨.directory .nil, [], trivial⟩ ⟨"/"⟩ none none { values := fun _ => none } =
        .ok { root := ⟨"/"⟩ } ∧
      Supervisor.IsEndless looks ∧
      ∃ n acts answer, Supervisor.run ⟨⟨0⟩, .ofSeconds 60⟩ (.running true)
        (Supervisor.front looks n) = (acts, some (.answered answer)) := by
  intro looks
  have hload : load ⟨.directory .nil, [], trivial⟩ ⟨"/"⟩ none none { values := fun _ => none } =
      .ok { root := ⟨"/"⟩ } := rfl
  have hclock : Supervisor.IsEndless looks := fun t => ⟨t, fun _ h => h⟩
  refine ⟨hload, hclock, ?_⟩
  obtain ⟨-, n, acts, verdict, hrun, hverdict⟩ := loaded_limit_verdict hload (.inr rfl) ⟨0⟩ hclock
    fun n => Nat.zero_le n
  cases verdict with
  | answered answer => exact ⟨n, acts, answer, hrun⟩
  | beyondClock => exact absurd (hverdict.mp fun _ => nofun).2 (by decide)

/-- A variable sets the greatest limit there is, and a program that ends at once has no answer. -/
theorem Config.Settings.loaded_limit_beyond_clock :
    let values : Variables := fun name =>
      if name = "STAGEBENCH_STAGE_TIMEOUT" then some "18446744073709551615" else none
    let limit := Duration.ofSeconds 18446744073709551615
    load ⟨.directory .nil, [], trivial⟩ ⟨"/"⟩ none none { values } =
        .ok { root := ⟨"/"⟩, stageTimeout := limit } ∧
      Supervisor.run ⟨⟨0⟩, limit⟩ (.running true)
        [⟨⟨0⟩, .complete, .exited 0, some [], some []⟩] = ([.collect 0], some .beyondClock) := by
  intro values limit
  have hdeadline : Instant.after? ⟨0⟩ limit = none := Instant.after?_eq_none_iff.mpr (by decide)
  have hexit : Supervisor.afterExit ⟨⟨0⟩, limit⟩ false 0 = .finished .beyondClock := by
    rw [Supervisor.afterExit, hdeadline]
  let look : Look := ⟨⟨0⟩, .complete, .exited 0, some [], some []⟩
  have hlook : (Supervisor.step ⟨⟨0⟩, limit⟩ (.running true) look).2 = .finished .beyondClock :=
    hexit
  exact ⟨rfl, Supervisor.run_cons_of_finished hlook []⟩

end EngineTrials
