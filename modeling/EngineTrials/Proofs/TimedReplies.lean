import EngineTrials.Benchmark.Run
import EngineTrials.Proofs.EchoedQuery
import EngineTrials.Proofs.QueryLines
import EngineTrials.Proofs.SampleRequests

/-!
# Engines that time each line

A query is sent on a line of its own as often as it is to be repeated, and an engine that times
queries replies to each line with one line that has one time in it. Its replies are told by an
inductive relation between the lines it reads, what it writes and the times in it, and the samples
of a case are followed along this relation. Whatever else an engine writes does not matter as long
as it does so in lines that the pattern does not select.
-/
namespace EngineTrials
open Text

variable {selects : List Char → Bool}

/-- A line of ASCII, which is one line and no more. -/
structure IsAsciiLine (line : List Char) : Prop where
  ascii : ∀ c ∈ line, c.toNat < 0x80
  single : '\n' ∉ line

theorem IsAsciiLine.of_all {line : List Char}
    (h : line.all (fun c => decide (c.toNat < 0x80) && c != '\n') = true) : IsAsciiLine line where
  ascii c hc := of_decide_eq_true (Bool.and_eq_true_iff.mp (List.all_eq_true.mp h c hc)).1
  single hfeed := absurd (Bool.and_eq_true_iff.mp (List.all_eq_true.mp h _ hfeed)).2 (by decide)

/-- A selected line with one word that is a number. -/
structure TellsTime (selects : List Char → Bool) (line : List Char) (time : Binary64) : Prop
    extends IsAsciiLine line where
  selected : selects line = true
  one_number : ∃ before word after, words line = before ++ word :: after ∧
    Binary64.read? word = some time ∧ ∀ other ∈ before ++ after, Binary64.read? other = none

/-- A line that is not selected. -/
structure IsNoise (selects : List Char → Bool) (line : List Char) : Prop
    extends IsAsciiLine line where
  ignored : selects line = false

/-- What is written by an engine that replies to each line it reads with a line that tells a time,
and the times told. -/
inductive Replies (selects : List Char → Bool) : List Bytes → List Char → List Binary64 → Prop
  | nil : Replies selects [] [] []
  | cons {read : Bytes} {line : List Char} {time : Binary64} {reads : List Bytes}
    {output : List Char} {times : List Binary64}
    (tells : TellsTime selects line time) (later : Replies selects reads output times) :
    Replies selects (read :: reads) (line ++ '\n' :: output) (time :: times)

/-- The second output is the first one with noise before, between and after its lines. -/
inductive AddsNoise (selects : List Char → Bool) : List Char → List Char → Prop
  | nil : AddsNoise selects [] []
  | keep {line quiet noisy : List Char} (later : AddsNoise selects quiet noisy) :
    AddsNoise selects (line ++ '\n' :: quiet) (line ++ '\n' :: noisy)
  | noise {line quiet noisy : List Char} (ignored : IsNoise selects line)
    (later : AddsNoise selects quiet noisy) : AddsNoise selects quiet (line ++ '\n' :: noisy)

theorem samples_line {line : List Char} (h : '\n' ∉ line) (rest : List Char) :
    samples selects (line ++ '\n' :: rest) = lineSamples selects line ++ samples selects rest := by
  have hcut : ∀ c ∈ line, (c == '\n') = false := fun c hc =>
    beq_eq_false_iff_ne.mpr fun hfeed => h (hfeed ▸ hc)
  have hone : lines line = [line] := by
    rw [lines, pieces_eq_splitOnP]
    exact List.splitOnP_eq_singleton hcut
  rw [samples_append, samples, hone, List.flatMap_singleton]

theorem TellsTime.lineSamples_eq {line : List Char} {time : Binary64}
    (h : TellsTime selects line time) : lineSamples selects line = [time] := by
  obtain ⟨before, word, after, hwords, hread, hothers⟩ := h.one_number
  have hbefore : before.filterMap Binary64.read? = [] :=
    List.filterMap_eq_nil_iff.mpr fun w hw => hothers w (List.mem_append_left after hw)
  have hafter : after.filterMap Binary64.read? = [] :=
    List.filterMap_eq_nil_iff.mpr fun w hw => hothers w (List.mem_append_right before hw)
  rw [lineSamples, if_pos h.selected, hwords, List.filterMap_append,
    List.filterMap_cons_some hread, hbefore, hafter, List.nil_append]

theorem IsNoise.lineSamples_eq {line : List Char} (h : IsNoise selects line) :
    lineSamples selects line = [] := by
  rw [lineSamples, if_neg (by rw [h.ignored]; exact Bool.false_ne_true)]

/-- The piece after the last line feed is empty, and so gives no samples even if it is selected. -/
theorem samples_nil : samples selects [] = [] := by
  have hempty : lineSamples selects [] = [] := by
    rw [lineSamples]
    split <;> rfl
  rw [samples, lines, pieces_nil, List.flatMap_singleton, hempty]

theorem Replies.samples_eq {reads : List Bytes} {output : List Char} {times : List Binary64}
    (h : Replies selects reads output times) : samples selects output = times := by
  induction h with
  | nil => exact samples_nil
  | cons tells later ih =>
    rw [samples_line tells.single, tells.lineSamples_eq, ih, List.singleton_append]

theorem AddsNoise.samples_eq {quiet noisy : List Char} (h : AddsNoise selects quiet noisy) :
    samples selects noisy = samples selects quiet := by
  induction h with
  | nil => rfl
  | keep later ih => rw [samples_append, samples_append, ih]
  | noise ignored later ih =>
    rw [samples_line ignored.single, ignored.lineSamples_eq, List.nil_append, ih]

theorem ascii_append_line {line rest : List Char} (hline : ∀ c ∈ line, c.toNat < 0x80)
    (hrest : ∀ c ∈ rest, c.toNat < 0x80) : ∀ c ∈ line ++ '\n' :: rest, c.toNat < 0x80 := by
  intro c hc
  rcases List.mem_append.mp hc with hc | hc
  · exact hline c hc
  · rcases List.mem_cons.mp hc with rfl | hc
    · decide
    · exact hrest c hc

theorem Replies.ascii {reads : List Bytes} {output : List Char} {times : List Binary64}
    (h : Replies selects reads output times) : ∀ c ∈ output, c.toNat < 0x80 := by
  induction h with
  | nil => exact fun c hc => absurd hc List.not_mem_nil
  | cons tells later ih => exact ascii_append_line tells.ascii ih

theorem AddsNoise.ascii {quiet noisy : List Char} (h : AddsNoise selects quiet noisy)
    (hquiet : ∀ c ∈ quiet, c.toNat < 0x80) : ∀ c ∈ noisy, c.toNat < 0x80 := by
  induction h with
  | nil => exact hquiet
  | keep later ih =>
    refine ascii_append_line (fun c hc => hquiet c (List.mem_append_left _ hc)) (ih fun c hc => ?_)
    exact hquiet c (List.mem_append_right _ (List.mem_cons_of_mem _ hc))
  | noise ignored later ih => exact ascii_append_line ignored.ascii (ih hquiet)

theorem Replies.length_eq {reads : List Bytes} {output : List Char} {times : List Binary64}
    (h : Replies selects reads output times) : times.length = reads.length := by
  induction h with
  | nil => rfl
  | cons tells later ih => rw [List.length_cons, List.length_cons, ih]

/-- An engine that ended well and had nothing to complain about, and what it wrote. -/
structure Capture.Wrote (c : Capture) (output : List Char) : Prop where
  exitCode : c.exitCode = 0
  stderr : c.stderr = []
  stdout : c.stdout = Utf8.encode output

namespace Benchmarks

variable {σ : Type}

/-- ASCII is read as it was written, although the bytes are not read as UTF-8. -/
theorem samplesOf_wrote {c : Capture} {output : List Char} (h : c.Wrote output)
    (hascii : ∀ d ∈ output, d.toNat < 0x80) :
    samplesOf selects (.ok c) = .ok (samples selects output) := by
  have hclean : c.isClean = true := Capture.isClean_iff.mpr ⟨h.exitCode, h.stderr⟩
  have hnarrow : ∀ d ∈ (String.ofList output).toList, d.toNat ≤ 0xFF := by
    intro d hd
    rw [String.toList_ofList] at hd
    have hlow := hascii d hd
    omega
  have hread : Latin1.decode c.stdout = String.ofList output := by
    rw [h.stdout, Utf8.encode_of_lt hascii]
    simpa only [String.toList_ofList] using Latin1.decode_encode hnarrow
  rw [samplesOf, if_pos hclean, hread, String.toList_ofList]

theorem runCase_wrote {runner : Runner σ} {command : Command} {query : String} {n : Nat}
    {timeout : Duration} {s : Session σ} {c : Capture} {output : List Char}
    (hran : (runner ⟨quietFromInput command, Query.input query n, timeout⟩ s.state).1 = .ok c)
    (hwrote : c.Wrote output) (hascii : ∀ d ∈ output, d.toNat < 0x80) :
    (runCase runner command query selects n timeout s).1 = .ok (samples selects output) := by
  have hanswer : (runCase runner command query selects n timeout s).1 =
      samplesOf selects
        (runner ⟨quietFromInput command, Query.input query n, timeout⟩ s.state).1 := rfl
  rw [hanswer, hran, samplesOf_wrote hwrote hascii]

/-- The lines that are closed by a line feed. -/
def closedLines (input : Bytes) : List Bytes := (input.splitOn 0x0A).dropLast

theorem length_closedLines_input (query : String) (n : Nat) :
    (closedLines (payload (Query.input query n))).length = n := by
  have hline : 0x0A ∉ payload (String.ofList (Query.normalizeChars query.toList)) := by
    intro h
    have hfeed := newline_mem_of_mem_payload h
    rw [String.toList_ofList] at hfeed
    exact Query.newline_not_mem_normalizeChars query.toList hfeed
  rw [closedLines, Query.input, payload_lines, splitOn_replicate hline, List.dropLast_concat,
    List.length_replicate]

/-- An engine that replies to each line of its input with a line that tells one time gives a case
as many samples as there are repetitions, and they are the times it told in their order. Another
engine that writes the same lines with noise between them gives the same samples. -/
theorem runCase_times_each_repetition (runner : Runner σ) (command : Command) (query : String)
    (selects : List Char → Bool) (n : Nat) (timeout : Duration) (s : Session σ) (c : Capture)
    (output : List Char) (times : List Binary64)
    (hran : (runner ⟨quietFromInput command, Query.input query n, timeout⟩ s.state).1 = .ok c)
    (hwrote : c.Wrote output)
    (hreplies : Replies selects (closedLines (payload (Query.input query n))) output times) :
    (runCase runner command query selects n timeout s).1 = .ok times ∧ times.length = n ∧
    ∀ (τ : Type) (other : Runner τ) (s' : Session τ) (c' : Capture) (noisy : List Char),
      (other ⟨quietFromInput command, Query.input query n, timeout⟩ s'.state).1 = .ok c' →
      c'.Wrote noisy → AddsNoise selects output noisy →
      (runCase other command query selects n timeout s').1 =
        (runCase runner command query selects n timeout s).1 := by
  have hquiet : (runCase runner command query selects n timeout s).1 = .ok times := by
    rw [runCase_wrote hran hwrote hreplies.ascii, hreplies.samples_eq]
  have hlength : times.length = n := by
    rw [hreplies.length_eq, length_closedLines_input]
  refine ⟨hquiet, hlength, ?_⟩
  intro τ other s' c' noisy hran' hwrote' hnoise
  rw [runCase_wrote hran' hwrote' (hnoise.ascii hreplies.ascii), hnoise.samples_eq,
    hreplies.samples_eq, hquiet]

/-- A query of two lines is sent twice on one line; the engine tells half a millisecond and then a
quarter, and another one talks about rows and `Time:` in the middle of a line as well. -/
theorem runCase_times_each_repetition_twice :
    let selects : List Char → Bool := fun line => (Regex.compile? "^Time:").any (·.selects line)
    let engine : String → Runner Unit := fun output =>
      .ofFunction fun _ => .ok ⟨0, Utf8.encode output.toList, [], none⟩
    let quiet := "Time: 0.5 ms\nTime: .25\n"
    let noisy := "Time: 0.5 ms\n3 rows in Time: 9\nTime: .25\n\n"
    let times : List Binary64 :=
      [.finite false 4503599627370496 (-53), .finite false 4503599627370496 (-54)]
    let query := " select '\u00e9'\nfrom t; "
    let run : Runner Unit → Except BenchmarkFailure (List Binary64) := fun runner =>
      (runCase runner ⟨⟨"bin/shell"⟩, ["-t", "s.sql"]⟩ query selects 2 (.ofSeconds 60) ⟨(), []⟩).1
    Replies selects (closedLines (payload (Query.input query 2))) quiet.toList times ∧
    AddsNoise selects quiet.toList noisy.toList ∧
    run (engine quiet) = .ok times ∧ run (engine noisy) = run (engine quiet) := by
  intro selects engine quiet noisy times query run
  have hlines : closedLines (payload (Query.input query 2)) =
      [payload (Query.normalize query), payload (Query.normalize query)] := by decide +kernel
  have hfirst : TellsTime selects "Time: 0.5 ms".toList (.finite false 4503599627370496 (-53)) :=
    { toIsAsciiLine := .of_all (by decide)
      selected := by decide +kernel
      one_number := ⟨["Time:".toList], "0.5".toList, ["ms".toList], by decide, by decide +kernel,
        by decide +kernel⟩ }
  have hsecond : TellsTime selects "Time: .25".toList (.finite false 4503599627370496 (-54)) :=
    { toIsAsciiLine := .of_all (by decide)
      selected := by decide +kernel
      one_number := ⟨["Time:".toList], ".25".toList, [], by decide, by decide +kernel,
        by decide +kernel⟩ }
  have hrows : IsNoise selects "3 rows in Time: 9".toList :=
    { toIsAsciiLine := .of_all (by decide), ignored := by decide +kernel }
  have hempty : IsNoise selects [] :=
    { toIsAsciiLine := .of_all (by decide), ignored := by decide +kernel }
  have hquiet : quiet.toList =
      "Time: 0.5 ms".toList ++ '\n' :: ("Time: .25".toList ++ '\n' :: []) := by decide
  have hnoisy : noisy.toList = "Time: 0.5 ms".toList ++ '\n' ::
      ("3 rows in Time: 9".toList ++ '\n' ::
        ("Time: .25".toList ++ '\n' :: ([] ++ '\n' :: []))) := by decide
  have hreplies : Replies selects (closedLines (payload (Query.input query 2)))
      quiet.toList times := by
    rw [hlines, hquiet]
    exact .cons hfirst (.cons hsecond .nil)
  have hnoise : AddsNoise selects quiet.toList noisy.toList := by
    rw [hquiet, hnoisy]
    exact .keep (.noise hrows (.keep (.noise hempty .nil)))
  obtain ⟨hrun, -, hsame⟩ := runCase_times_each_repetition (engine quiet)
    ⟨⟨"bin/shell"⟩, ["-t", "s.sql"]⟩ query selects 2 (.ofSeconds 60) ⟨(), []⟩
    ⟨0, Utf8.encode quiet.toList, [], none⟩ quiet.toList times rfl ⟨rfl, rfl, rfl⟩ hreplies
  exact ⟨hreplies, hnoise, hrun, hsame Unit (engine noisy) ⟨(), []⟩
    ⟨0, Utf8.encode noisy.toList, [], none⟩ noisy.toList rfl ⟨rfl, rfl, rfl⟩ hnoise⟩
end Benchmarks

end EngineTrials
