import EngineTrials.Proofs.Lines
import EngineTrials.Proofs.Utf8
import EngineTrials.Stage.Expectation

/-!
# Which check fails

A stage passes exactly if both streams are UTF-8 and every declared check holds, and otherwise the
failure is the first in the order of the checks. `Holds` and `Violates` say what the checks are
about without going through the order, through sorting or through the way errors are counted.
-/
namespace EngineTrials
open Text

/-- The places of a text at which a word begins. -/
def places (word text : List Char) : List Nat :=
  (List.range text.length).filter fun i => word.isPrefixOf (text.drop i)

theorem length_places_cons (word : List Char) (c : Char) (rest : List Char) :
    (places word (c :: rest)).length =
      (places word rest).length + if word.isPrefixOf (c :: rest) then 1 else 0 := by
  rw [places, List.length_cons, List.range_succ_eq_map, List.filter_cons, List.filter_map]
  simp only [List.drop_zero]
  split
  · rw [List.length_cons, List.length_map]
    rfl
  · rw [List.length_map]
    rfl

namespace Expectation

/-- Where the first character of a word does not come again in it, no occurrence is passed over
while what is left of the last one is skipped. -/
theorem occurrences_eq_length_places {first : Char} {tail : List Char} (hfirst : first ∉ tail)
    (left : Nat) (text : List Char) (hleft : first ∉ text.take left) :
    occurrences (first :: tail) left text = (places (first :: tail) text).length := by
  induction text generalizing left with
  | nil => simp [occurrences, places]
  | cons c rest ih =>
    rw [length_places_cons]
    cases left with
    | zero =>
      rw [occurrences]
      split
      · next h =>
        simp only [List.isPrefixOf_iff_prefix, List.cons_prefix_cons] at h
        rw [ih]
        rwa [List.length_cons, Nat.add_sub_cancel, ← List.prefix_iff_eq_take.mp h.2]
      · rw [ih 0 (by simp), Nat.add_zero]
    | succ left =>
      simp only [List.take_succ_cons, List.mem_cons, not_or] at hleft
      rw [occurrences, ih left hleft.2, if_neg, Nat.add_zero]
      simp [List.isPrefixOf, hleft.1]

theorem countErrors_eq (s : String) :
    countErrors s = (places "error".toList s.toList).length :=
  occurrences_eq_length_places (by decide) 0 s.toList (by simp)

/-- A stage does all that is expected of it. The exit code, the number of errors, the error stream
and the output matter if they are declared; of the output only which lines it has. -/
def Holds (e : Expectation) (c : Capture) : Prop :=
  ∃ out err : String, out.toByteArray = c.stdout.toByteArray ∧
    err.toByteArray = c.stderr.toByteArray ∧
    (∀ n ∈ e.returnCode, n = c.exitCode) ∧
    (∀ n ∈ e.errorCount, n = (places "error".toList err.toList).length) ∧
    (∀ t ∈ e.stderr, t = err) ∧
    (∀ t ∈ e.stdout, (linesOf t).Perm (linesOf out))

/-- The lines of a text in ascending order, each as often as it occurs. -/
structure SortsLinesOf (text : String) (sorted : List String) : Prop where
  ascending : sorted.Pairwise (· ≤ ·)
  perm : sorted.Perm (linesOf text)

/-- A failure that a captured invocation gives reason for, with what was declared and what there
was instead. -/
inductive Violates (e : Expectation) (c : Capture) : StageFailure → Prop
  | stdoutEncoding (h : ¬ c.stdout.toByteArray.IsValidUTF8) : Violates e c (.invalidUtf8 .stdout)
  | stderrEncoding (h : ¬ c.stderr.toByteArray.IsValidUTF8) : Violates e c (.invalidUtf8 .stderr)
  | returnCode {n : Int} (declared : e.returnCode = some n) (h : n ≠ c.exitCode) :
    Violates e c (.returnCode n c.exitCode)
  | errorCount {n : Nat} {err : String} (declared : e.errorCount = some n)
    (read : err.toByteArray = c.stderr.toByteArray)
    (h : n ≠ (places "error".toList err.toList).length) :
    Violates e c (.errorCount n (places "error".toList err.toList).length)
  | stderr {t err : String} (declared : e.stderr = some t)
    (read : err.toByteArray = c.stderr.toByteArray) (h : t ≠ err) : Violates e c (.stderr t err)
  | stdout {t out : String} {expected actual : List String} (declared : e.stdout = some t)
    (read : out.toByteArray = c.stdout.toByteArray) (h : ¬ (linesOf t).Perm (linesOf out))
    (he : SortsLinesOf t expected) (ha : SortsLinesOf out actual) :
    Violates e c (.stdout expected actual)

/-- The place of a check among the checks; failures that are none of a check come last. -/
def checkOrder : StageFailure → Nat
  | .invalidUtf8 .stdout => 0
  | .invalidUtf8 .stderr => 1
  | .returnCode _ _ => 2
  | .errorCount _ _ => 3
  | .stderr _ _ => 4
  | .stdout _ _ => 5
  | .timeout _ | .process _ | .earlierStageFailed => 6

theorem bind_unless_eq_none {α β : Type} {o : Option α} {p : α → Prop} [DecidablePred p]
    {f : α → β} : (o.bind fun a => if p a then none else some (f a)) = none ↔ ∀ a ∈ o, p a := by
  cases o <;> simp

theorem bind_unless_eq_some {α β : Type} {o : Option α} {p : α → Prop} [DecidablePred p]
    {f : α → β} {b : β} : (o.bind fun a => if p a then none else some (f a)) = some b ↔
      ∃ a, o = some a ∧ ¬ p a ∧ f a = b := by
  cases o with
  | none => simp
  | some a => by_cases h : p a <;> simp [h]

theorem violation?_eq_none_iff {e : Expectation} {exitCode : Int} {out err : String} :
    e.violation? exitCode out err = none ↔
      (∀ n ∈ e.returnCode, n = exitCode) ∧
      (∀ n ∈ e.errorCount, n = (places "error".toList err.toList).length) ∧
      (∀ t ∈ e.stderr, t = err) ∧ (∀ t ∈ e.stdout, (linesOf t).Perm (linesOf out)) := by
  simp only [violation?, Option.or_eq_none_iff, bind_unless_eq_none, countErrors_eq,
    sortedLines_eq_iff]

theorem violation?_eq_some_iff {e : Expectation} {exitCode : Int} {out err : String}
    {f : StageFailure} : e.violation? exitCode out err = some f ↔
      (∃ n, e.returnCode = some n ∧ n ≠ exitCode ∧ .returnCode n exitCode = f) ∨
      (∀ n ∈ e.returnCode, n = exitCode) ∧
        ((∃ n, e.errorCount = some n ∧ n ≠ (places "error".toList err.toList).length ∧
          .errorCount n (places "error".toList err.toList).length = f) ∨
        (∀ n ∈ e.errorCount, n = (places "error".toList err.toList).length) ∧
          ((∃ t, e.stderr = some t ∧ t ≠ err ∧ .stderr t err = f) ∨
          (∀ t ∈ e.stderr, t = err) ∧
            ∃ t, e.stdout = some t ∧ ¬ (linesOf t).Perm (linesOf out) ∧
              .stdout (sortedLines t) (sortedLines out) = f)) := by
  simp only [violation?, Option.or_eq_some_iff, bind_unless_eq_none, bind_unless_eq_some,
    countErrors_eq, sortedLines_eq_iff, ne_eq]

theorem SortsLinesOf.eq {text : String} {sorted : List String} (h : SortsLinesOf text sorted) :
    sorted = sortedLines text :=
  eq_sortedLines h.perm h.ascending

theorem sortsLinesOf_sortedLines (text : String) : SortsLinesOf text (sortedLines text) :=
  ⟨sortedLines_ascending text, sortedLines_perm text⟩

/-- What can be violated once both streams are known as texts. -/
theorem violates_iff {e : Expectation} {c : Capture} {out err : String}
    (hout : out.toByteArray = c.stdout.toByteArray)
    (herr : err.toByteArray = c.stderr.toByteArray) {f : StageFailure} :
    Violates e c f ↔
      (∃ n, e.returnCode = some n ∧ n ≠ c.exitCode ∧ .returnCode n c.exitCode = f) ∨
      (∃ n, e.errorCount = some n ∧ n ≠ (places "error".toList err.toList).length ∧
        .errorCount n (places "error".toList err.toList).length = f) ∨
      (∃ t, e.stderr = some t ∧ t ≠ err ∧ .stderr t err = f) ∨
      ∃ t, e.stdout = some t ∧ ¬ (linesOf t).Perm (linesOf out) ∧
        .stdout (sortedLines t) (sortedLines out) = f := by
  constructor
  · rintro (h | h | ⟨hd, h⟩ | ⟨hd, hr, h⟩ | ⟨hd, hr, h⟩ | ⟨hd, hr, h, he, ha⟩)
    · exact absurd (hout ▸ out.isValidUTF8) h
    · exact absurd (herr ▸ err.isValidUTF8) h
    · exact .inl ⟨_, hd, h, rfl⟩
    · obtain rfl := String.toByteArray_inj.mp (hr.trans herr.symm)
      exact .inr (.inl ⟨_, hd, h, rfl⟩)
    · obtain rfl := String.toByteArray_inj.mp (hr.trans herr.symm)
      exact .inr (.inr (.inl ⟨_, hd, h, rfl⟩))
    · obtain rfl := String.toByteArray_inj.mp (hr.trans hout.symm)
      exact .inr (.inr (.inr ⟨_, hd, h, by rw [he.eq, ha.eq]⟩))
  · rintro (⟨n, hd, h, rfl⟩ | ⟨n, hd, h, rfl⟩ | ⟨t, hd, h, rfl⟩ | ⟨t, hd, h, rfl⟩)
    · exact .returnCode hd h
    · exact .errorCount hd herr h
    · exact .stderr hd herr h
    · exact .stdout hd hout h (sortsLinesOf_sortedLines t) (sortsLinesOf_sortedLines out)

/-- With both streams read, the declared checks are made in their order. -/
theorem violation?_first {e : Expectation} {c : Capture} {out err : String}
    (hout : out.toByteArray = c.stdout.toByteArray)
    (herr : err.toByteArray = c.stderr.toByteArray) {f : StageFailure}
    (h : e.violation? c.exitCode out err = some f) :
    Violates e c f ∧ ∀ g, Violates e c g → checkOrder f ≤ checkOrder g := by
  simp only [violates_iff hout herr]
  rw [violation?_eq_some_iff] at h
  obtain h | ⟨hcode, h | ⟨hcount, h | ⟨hstderr, h⟩⟩⟩ := h
  · refine ⟨.inl h, ?_⟩
    obtain ⟨_, _, _, rfl⟩ := h
    rintro g (⟨_, _, _, rfl⟩ | ⟨_, _, _, rfl⟩ | ⟨_, _, _, rfl⟩ | ⟨_, _, _, rfl⟩) <;>
      simp [checkOrder]
  · refine ⟨.inr (.inl h), ?_⟩
    obtain ⟨_, _, _, rfl⟩ := h
    rintro g (⟨_, hd, h, rfl⟩ | ⟨_, _, _, rfl⟩ | ⟨_, _, _, rfl⟩ | ⟨_, _, _, rfl⟩)
    · exact absurd (hcode _ hd) h
    all_goals simp [checkOrder]
  · refine ⟨.inr (.inr (.inl h)), ?_⟩
    obtain ⟨_, _, _, rfl⟩ := h
    rintro g (⟨_, hd, h, rfl⟩ | ⟨_, hd, h, rfl⟩ | ⟨_, _, _, rfl⟩ | ⟨_, _, _, rfl⟩)
    · exact absurd (hcode _ hd) h
    · exact absurd (hcount _ hd) h
    all_goals simp [checkOrder]
  · refine ⟨.inr (.inr (.inr h)), ?_⟩
    obtain ⟨_, _, _, rfl⟩ := h
    rintro g (⟨_, hd, h, rfl⟩ | ⟨_, hd, h, rfl⟩ | ⟨_, hd, h, rfl⟩ | ⟨_, _, _, rfl⟩)
    · exact absurd (hcode _ hd) h
    · exact absurd (hcount _ hd) h
    · exact absurd (hstderr _ hd) h
    · simp [checkOrder]

/-- A failure is one there is reason for, and none before it in the order has any. -/
theorem first_of_check_error {e : Expectation} {c : Capture} {f : StageFailure}
    (h : e.check c = .error f) :
    Violates e c f ∧ ∀ g, Violates e c g → checkOrder f ≤ checkOrder g := by
  simp only [check] at h
  cases hout : Utf8.text? c.stdout with
  | none =>
    simp only [hout, Except.error.injEq] at h
    subst h
    exact ⟨.stdoutEncoding (Utf8.text?_eq_none_iff.mp hout), fun g _ => Nat.zero_le _⟩
  | some out =>
    have hout' := Utf8.text?_eq_some_iff.mp hout
    cases herr : Utf8.text? c.stderr with
    | none =>
      simp only [hout, herr, Except.error.injEq] at h
      subst h
      refine ⟨.stderrEncoding (Utf8.text?_eq_none_iff.mp herr), ?_⟩
      rintro g (hg | _ | _ | _ | _ | _)
      · exact absurd (hout' ▸ out.isValidUTF8) hg
      all_goals simp [checkOrder]
    | some err =>
      have herr' := Utf8.text?_eq_some_iff.mp herr
      cases hv : e.violation? c.exitCode out err with
      | none => simp [hout, herr, hv] at h
      | some g =>
        simp only [hout, herr, hv, Except.error.injEq] at h
        subst h
        exact violation?_first hout' herr' hv

theorem holds_of_check_ok {e : Expectation} {c : Capture} (h : e.check c = .ok ()) :
    Holds e c := by
  simp only [check] at h
  cases hout : Utf8.text? c.stdout with
  | none => simp [hout] at h
  | some out =>
    cases herr : Utf8.text? c.stderr with
    | none => simp [hout, herr] at h
    | some err =>
      cases hv : e.violation? c.exitCode out err with
      | some g => simp [hout, herr, hv] at h
      | none =>
        exact ⟨out, err, Utf8.text?_eq_some_iff.mp hout, Utf8.text?_eq_some_iff.mp herr,
          violation?_eq_none_iff.mp hv⟩

/-- Where everything holds there is reason for no failure. -/
theorem not_violates_of_holds {e : Expectation} {c : Capture} (h : Holds e c)
    (f : StageFailure) : ¬ Violates e c f := by
  obtain ⟨out, err, hout, herr, hcode, hcount, hstderr, hstdout⟩ := h
  rw [violates_iff hout herr]
  rintro (⟨n, hd, h, -⟩ | ⟨n, hd, h, -⟩ | ⟨t, hd, h, -⟩ | ⟨t, hd, h, -⟩)
  · exact h (hcode n hd)
  · exact h (hcount n hd)
  · exact h (hstderr t hd)
  · exact h (hstdout t hd)

/-- For one check there is one failure at most. -/
theorem violates_unique {e : Expectation} {c : Capture} {f g : StageFailure}
    (hf : Violates e c f) (hg : Violates e c g) (h : checkOrder f = checkOrder g) : f = g := by
  cases hf with
  | stdoutEncoding =>
    cases hg with
    | stdoutEncoding => rfl
    | _ => simp [checkOrder] at h
  | stderrEncoding =>
    cases hg with
    | stderrEncoding => rfl
    | _ => simp [checkOrder] at h
  | returnCode hd =>
    cases hg with
    | returnCode hd' =>
      obtain rfl := Option.some.inj (hd.symm.trans hd')
      rfl
    | _ => simp [checkOrder] at h
  | errorCount hd hr =>
    cases hg with
    | errorCount hd' hr' =>
      obtain rfl := Option.some.inj (hd.symm.trans hd')
      obtain rfl := String.toByteArray_inj.mp (hr.trans hr'.symm)
      rfl
    | _ => simp [checkOrder] at h
  | stderr hd hr =>
    cases hg with
    | stderr hd' hr' =>
      obtain rfl := Option.some.inj (hd.symm.trans hd')
      obtain rfl := String.toByteArray_inj.mp (hr.trans hr'.symm)
      rfl
    | _ => simp [checkOrder] at h
  | stdout hd hr _ he ha =>
    cases hg with
    | stdout hd' hr' _ he' ha' =>
      obtain rfl := Option.some.inj (hd.symm.trans hd')
      obtain rfl := String.toByteArray_inj.mp (hr.trans hr'.symm)
      rw [he.eq, ha.eq, he'.eq, ha'.eq]
    | _ => simp [checkOrder] at h

/-- With an empty error stream and no other check declared, only the lines of the output matter. -/
theorem check_stdout_only {t out : String} {c : Capture} (hout : Utf8.text? c.stdout = some out)
    (herr : c.stderr = []) :
    ({ stdout := some t } : Expectation).check c =
      if sortedLines t = sortedLines out then .ok ()
      else .error (.stdout (sortedLines t) (sortedLines out)) := by
  have hempty : Utf8.text? c.stderr = some "" := by rw [herr]; rfl
  simp only [check, hout, hempty, violation?, Option.bind_none, Option.bind_some, Option.none_or]
  by_cases h : sortedLines t = sortedLines out
  · rw [if_pos h, if_pos h]
  · rw [if_neg h, if_neg h]

/-- What a check fails with is the failure of a check. -/
theorem checkOrder_lt {e : Expectation} {c : Capture} {f : StageFailure}
    (h : e.check c = .error f) : checkOrder f < 6 := by
  cases (first_of_check_error h).1 <;> simp [checkOrder]

/-- The check of a stage says that all is well exactly if it is, and otherwise names the first check
that does not hold. -/
theorem check_first_violation (e : Expectation) (c : Capture) :
    (e.check c = .ok () ↔ Holds e c) ∧
    ∀ f, e.check c = .error f ↔
      Violates e c f ∧ ∀ g, Violates e c g → checkOrder f ≤ checkOrder g := by
  refine ⟨⟨holds_of_check_ok, fun h => ?_⟩, fun f => ⟨first_of_check_error, ?_⟩⟩
  · cases hc : e.check c with
    | ok => rfl
    | error f => exact absurd (first_of_check_error hc).1 (not_violates_of_holds h f)
  · rintro ⟨hf, hfirst⟩
    cases hc : e.check c with
    | ok => exact absurd hf (not_violates_of_holds (holds_of_check_ok hc) f)
    | error g =>
      obtain ⟨hg, hfirst'⟩ := first_of_check_error hc
      have h := Nat.le_antisymm (hfirst g hg) (hfirst' f hf)
      rw [violates_unique hf hg h]

end Expectation

end EngineTrials
