import EngineTrials.Proofs.SelfDelimiting
import EngineTrials.Proofs.StageCheck
import Mathlib.Data.List.Basic

/-!
# The message about other output than expected

Within quotes every character is written in a way that tells it in front of any other, and the
closing quote is no beginning of one; so a text in quotes tells where it ends, and then a list of
such texts does. No line feed is left in what is written, whatever the texts were. The message has
the lists on lines of their own, hence it is the message of two lists only.
-/
namespace EngineTrials

namespace Text

theorem mem_glue {sep : List Char} {ps : List (List Char)} {c : Char} (h : c ∈ glue sep ps) :
    c ∈ sep ∨ ∃ p ∈ ps, c ∈ p := by
  cases ps with
  | nil => exact absurd h List.not_mem_nil
  | cons p ps =>
    rw [glue_cons, List.mem_append, List.mem_flatMap] at h
    obtain hp | ⟨q, hq, hc⟩ := h
    · exact .inr ⟨p, List.mem_cons_self, hp⟩
    · exact (List.mem_append.mp hc).imp_right fun hc => ⟨q, List.mem_cons_of_mem p hq, hc⟩

theorem linesOf_join {ls : List String} (h : ∀ l ∈ ls, '\n' ∉ l.toList) (hne : ls ≠ []) :
    linesOf (join "\n" ls) = ls := by
  have hlists : ∀ cs ∈ ls.map String.toList, '\n' ∉ cs := List.forall_mem_map.mpr h
  have hback : ls.map (String.ofList ∘ String.toList) = ls :=
    (List.map_congr_left fun _ _ => String.ofList_toList).trans (List.map_id ls)
  rw [linesOf, join, String.toList_intercalate]
  rw [show "\n".toList = ['\n'] from rfl, List.splitOn_intercalate '\n' hlists (by simpa using hne),
    List.map_map, hback]

namespace Quoted

variable (hidden : Char → Bool)

/-- The characters that are written as a backslash and one other character, after that one. -/
def shortForms : List (Char × Char) :=
  [('0', '\x00'), ('t', '\t'), ('r', '\r'), ('n', '\n'), ('"', '"'), ('\\', '\\')]

/-- How a character is written: as itself, in two characters, or as its code point. -/
inductive IsWritten (c : Char) : List Char → Prop
  | plain (hslash : c ≠ '\\') (hquote : c ≠ '"') (hfeed : c ≠ '\n') : IsWritten c [c]
  | short {letter : Char} (h : (letter, c) ∈ shortForms) : IsWritten c ['\\', letter]
  | code : IsWritten c (codePoint c)

theorem isWritten_escapeWith (c : Char) : IsWritten c (escapeWith hidden c) := by
  rw [escapeWith]
  split
  case isTrue h => rw [h]; exact .short (by decide)
  split
  case isTrue h => rw [h]; exact .short (by decide)
  split
  case isTrue h => rw [h]; exact .short (by decide)
  split
  case isTrue h => rw [h]; exact .short (by decide)
  split
  case isTrue h => rw [h]; exact .short (by decide)
  split
  case isTrue h => rw [h]; exact .short (by decide)
  split
  case isTrue => exact .code
  exact .plain ‹_› ‹_› ‹_›

theorem isSelfDelimiting_codePoint : IsSelfDelimiting codePoint := by
  have hradix : IsRadix 16 := by decide
  have hmark : digit? 16 '\x7d' = none := by decide
  exact ((isSelfDelimiting_numeral hradix hmark []).comp fun _ _ => Char.toNat_inj.mp).behind
    ['\\', 'u', '\x7b']

namespace IsWritten

/-- The character behind a backslash tells which of the two kinds of escape it is. -/
theorem unique {c d : Char} {cs ds r s : List Char} (hc : IsWritten c cs) (hd : IsWritten d ds)
    (h : cs ++ r = ds ++ s) : c = d ∧ r = s := by
  have hletter : ∀ p ∈ shortForms, p.1 ≠ 'u' := by decide
  have hshort : ∀ p ∈ shortForms, ∀ q ∈ shortForms, p.1 = q.1 → p.2 = q.2 := by decide
  cases hc with
  | plain hslash =>
    cases hd with
    | plain => exact List.cons.inj h
    | short | code => exact absurd (List.cons.inj h).1 hslash
  | short hmem =>
    cases hd with
    | plain hslash => exact absurd (List.cons.inj h).1.symm hslash
    | short hmem' =>
      obtain ⟨hsame, hrest⟩ := List.cons.inj (List.cons.inj h).2
      exact ⟨hshort _ hmem _ hmem' hsame, hrest⟩
    | code => exact absurd (List.cons.inj (List.cons.inj h).2).1 (hletter _ hmem)
  | code =>
    cases hd with
    | plain hslash => exact absurd (List.cons.inj h).1.symm hslash
    | short hmem' => exact absurd (List.cons.inj (List.cons.inj h).2).1.symm (hletter _ hmem')
    | code => exact isSelfDelimiting_codePoint h

theorem opensApart {c : Char} {cs : List Char} (h : IsWritten c cs) : OpensApart '"' cs := by
  cases h with
  | plain _ hquote => exact ⟨c, rfl, hquote⟩
  | short | code => exact ⟨'\\', rfl, by decide⟩

theorem newline_not_mem {c : Char} {cs : List Char} (h : IsWritten c cs) : '\n' ∉ cs := by
  have hshort : ∀ p ∈ shortForms, '\n' ∉ ['\\', p.1] := by decide
  cases h with
  | plain _ _ hfeed => exact fun h => hfeed (List.mem_singleton.mp h).symm
  | short hmem => exact hshort _ hmem
  | code =>
    have hdigits : '\n' ∉ numeral 16 c.toNat := fun h =>
      absurd (isSome_digit?_of_mem_numeral (by decide) h) (by decide)
    simpa [codePoint] using hdigits

end IsWritten

theorem isSelfDelimiting_quoteWith : IsSelfDelimiting (quoteWith hidden) := by
  have hchar : IsSelfDelimiting (escapeWith hidden) := fun c d _ _ =>
    (isWritten_escapeWith hidden c).unique (isWritten_escapeWith hidden d)
  exact (hchar.flatMap (fun c => (isWritten_escapeWith hidden c).opensApart) []).behind ['"']

theorem isSelfDelimiting_quoteListWith : IsSelfDelimiting (quoteListWith hidden) := by
  have hquote (cs : List Char) : OpensApart ']' (quoteWith hidden cs) := ⟨'"', rfl, by decide⟩
  exact ((isSelfDelimiting_quoteWith hidden).glue hquote ⟨',', rfl, by decide⟩ []).behind ['[']

theorem newline_not_mem_quoteListWith (items : List (List Char)) :
    '\n' ∉ quoteListWith hidden items := by
  have hquote (cs : List Char) : '\n' ∉ quoteWith hidden cs := by
    simpa [quoteWith] using fun c _ => (isWritten_escapeWith hidden c).newline_not_mem
  have hglue : '\n' ∉ glue [',', ' '] (items.map (quoteWith hidden)) := by
    intro h
    obtain hsep | ⟨p, hp, hc⟩ := mem_glue h
    · exact absurd hsep (by decide)
    · obtain ⟨cs, -, rfl⟩ := List.mem_map.mp hp
      exact hquote cs hc
  simpa [quoteListWith] using hglue

theorem quoteList_inj {items other : List String} :
    quoteList items = quoteList other ↔ items = other := by
  constructor
  · intro h
    have hlists := (isSelfDelimiting_quoteListWith _).injective (String.ofList_injective h)
    have hinjective : Function.Injective String.toList := fun _ _ => String.toList_inj.mp
    exact hinjective.list_map hlists
  · exact congrArg quoteList

theorem newline_not_mem_quoteList (items : List String) : '\n' ∉ (quoteList items).toList := by
  rw [quoteList, String.toList_ofList]
  exact newline_not_mem_quoteListWith _ _

end Quoted
end Text

namespace StageFailure
open Text Quoted

theorem message_stdout (expected actual : List String) : (stdout expected actual).message =
    join "\n" ["Expected out", quoteList expected, "received", quoteList actual] := by
  have hfirst : "Expected out\n" = "Expected out" ++ "\n" := by decide
  have hmiddle : "\nreceived\n" = "\n" ++ "received" ++ "\n" := by decide
  show "Expected out\n" ++ quoteList expected ++ "\nreceived\n" ++ quoteList actual = _
  rw [hfirst, hmiddle, join]
  rw [String.intercalate_cons_cons, String.intercalate_cons_cons, String.intercalate_cons_cons,
    String.intercalate_singleton]
  simp only [String.append_assoc]

theorem linesOf_message_stdout (expected actual : List String) :
    linesOf (stdout expected actual).message =
      ["Expected out", quoteList expected, "received", quoteList actual] := by
  have hfixed : '\n' ∉ "Expected out".toList ∧ '\n' ∉ "received".toList := by decide
  rw [message_stdout]
  refine linesOf_join ?_ (List.cons_ne_nil _ _)
  simp only [List.forall_mem_cons, List.not_mem_nil, false_implies, implies_true, and_true]
  exact ⟨hfixed.1, newline_not_mem_quoteList expected, hfixed.2, newline_not_mem_quoteList actual⟩

end StageFailure

namespace Expectation
open Text Quoted

/-- Lists are only reported if they differ. -/
theorem ne_of_check_stdout {e : Expectation} {c : Capture} {expected actual : List String}
    (h : e.check c = .error (.stdout expected actual)) : expected ≠ actual := by
  cases (first_of_check_error h).1 with
  | stdout _ _ hdiffer hexpected hactual =>
    rw [hexpected.eq, hactual.eq]
    exact fun hsame => hdiffer (sortedLines_eq_iff.mp hsame)

/-- The message about lines other than expected has four lines, whatever stands in the lines that it
is about: two that are always the same, and below each of them a list in quotes. The two lists are
never written alike. No other two lists that a check finds to differ have this message. -/
theorem check_stdout_message {e : Expectation} {c : Capture} {expected actual : List String}
    (h : e.check c = .error (.stdout expected actual)) :
    linesOf (StageFailure.stdout expected actual).message =
      ["Expected out", quoteList expected, "received", quoteList actual] ∧
    quoteList expected ≠ quoteList actual ∧
    ∀ (e' : Expectation) (c' : Capture) (expected' actual' : List String),
      e'.check c' = .error (.stdout expected' actual') →
      (StageFailure.stdout expected actual).message =
        (StageFailure.stdout expected' actual').message →
      expected = expected' ∧ actual = actual' := by
  refine ⟨StageFailure.linesOf_message_stdout expected actual,
    fun hsame => ne_of_check_stdout h (quoteList_inj.mp hsame),
    fun _ _ expected' actual' _ hmessage => ?_⟩
  have hlines := congrArg linesOf hmessage
  rw [StageFailure.linesOf_message_stdout, StageFailure.linesOf_message_stdout] at hlines
  simp only [List.cons.injEq, quoteList_inj, and_true, true_and] at hlines
  exact hlines

/-- One line that reads like two in quotes, and the two lines. -/
theorem check_stdout_message_lookalikes :
    let one : Expectation := { stdout := some "a\", \"b" }
    let two : Expectation := { stdout := some "b\na" }
    let c : Capture := { exitCode := 0, stdout := [0x78], stderr := [] }
    one.check c = .error (.stdout ["a\", \"b"] ["x"]) ∧
    two.check c = .error (.stdout ["a", "b"] ["x"]) ∧
    linesOf (StageFailure.stdout ["a\", \"b"] ["x"]).message =
      ["Expected out", "[\"a\\\", \\\"b\"]", "received", "[\"x\"]"] ∧
    (StageFailure.stdout ["a\", \"b"] ["x"]).message ≠
      (StageFailure.stdout ["a", "b"] ["x"]).message := by
  intro one two c
  have hout : Utf8.text? c.stdout = some "x" := by decide
  have hactual : sortedLines "x" = ["x"] := (eq_sortedLines (by decide) (by decide)).symm
  have hexpected : sortedLines "a\", \"b" = ["a\", \"b"] :=
    (eq_sortedLines (by decide) (by decide)).symm
  have hexpected' : sortedLines "b\na" = ["a", "b"] :=
    (eq_sortedLines (by decide) (by decide)).symm
  have hone : one.check c = .error (.stdout ["a\", \"b"] ["x"]) := by
    rw [check_stdout_only hout rfl, hexpected, hactual, if_neg (by decide)]
  have htwo : two.check c = .error (.stdout ["a", "b"] ["x"]) := by
    rw [check_stdout_only hout rfl, hexpected', hactual, if_neg (by decide)]
  have hwritten : quoteList ["a\", \"b"] = "[\"a\\\", \\\"b\"]" := by decide +kernel
  have hreceived : quoteList ["x"] = "[\"x\"]" := by decide +kernel
  obtain ⟨hlines, -, hunique⟩ := check_stdout_message hone
  refine ⟨hone, htwo, by rw [hlines, hwritten, hreceived], fun hmessage => ?_⟩
  exact absurd (hunique two c _ _ htwo hmessage).1 (by decide)

end Expectation

end EngineTrials
