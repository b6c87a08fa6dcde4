import EngineTrials.Proofs.CounterHistory
import EngineTrials.Proofs.StyledText

/-!
# What a summary loses in writing

Nothing: both forms of a summary are made of pieces that tell where they end, so that every number
can be read off them and every stage is known by its name. In the text form the block about bad
files shifts all that follows; but it begins like no line about a stage and not like a rule. The
styles are put around whole labels and numbers, after these were filled up, and so leave the layout
as it is.
-/
namespace EngineTrials

open Text

/-- No two stages have names that begin with the same letter. -/
theorem Stage.isSelfDelimiting_name : IsSelfDelimiting fun s : Stage => s.name.toList := by
  have hsome (s : Stage) : s.name.toList ≠ [] := by cases s <;> decide
  have hfirst (s t : Stage) : s.name.toList.head? = t.name.toList.head? → s = t := by
    cases s <;> cases t <;> decide
  intro s t r r' h
  have hhead := congrArg List.head? h
  rw [List.head?_append_of_ne_nil _ (hsome s), List.head?_append_of_ne_nil _ (hsome t)] at hhead
  obtain rfl := hfirst s t hhead
  exact ⟨rfl, List.append_cancel_left h⟩

theorem Tally.isSelfDelimiting_counts {mark mark' : Char} (hmark : digit? 10 mark = none)
    (hmark' : digit? 10 mark' = none) (between behind : List Char) :
    IsSelfDelimiting fun t : Tally =>
      numeral 10 t.passed ++ mark :: between ++ (numeral 10 t.total ++ mark' :: behind) := by
  have hradix : IsRadix 10 := by decide
  have hcounts := (isSelfDelimiting_numeral hradix hmark between).append
    (isSelfDelimiting_numeral hradix hmark' behind)
  refine hcounts.comp (f := fun t : Tally => (t.passed, t.total)) fun t u h => ?_
  obtain ⟨hpassed, htotal⟩ := Prod.mk.inj h
  exact Tally.ext hpassed htotal

namespace Summary

/-- Lines with a line feed behind each. -/
def closed (ls : List String) : List Char := ls.flatMap fun l => l.toList ++ ['\n']

theorem closed_append (ls more : List String) : closed (ls ++ more) = closed ls ++ closed more :=
  List.flatMap_append

theorem join_closed {ls : List String} (h : ls ≠ []) :
    (join "\n" ls).toList ++ ['\n'] = closed ls := by
  induction ls with
  | nil => exact absurd rfl h
  | cons l ls ih =>
    cases ls with
    | nil => rw [join, String.intercalate_singleton, closed, List.flatMap_singleton]
    | cons next ls =>
      rw [closed, List.flatMap_cons, ← closed, ← ih (List.cons_ne_nil _ _), join,
        String.intercalate_cons_cons, String.toList_append, String.toList_append,
        List.append_assoc]
      rfl

theorem toList_rule : rule.toList = '-' :: List.replicate 79 '-' := by
  unfold rule
  rw [String.toList_ofList, List.replicate_succ]

theorem paint_false (style : Style) (s : String) : style.paint false s = s :=
  if_neg Bool.false_ne_true

/-- A line that closes with a tally. -/
theorem toList_line (lead : String) (t : Tally) : (lead ++ ratio false t).toList ++ ['\n'] =
    lead.toList ++ (numeral 10 t.passed ++ ['/'] ++ (numeral 10 t.total ++ ['\n'])) := by
  rw [ratio, paint_false]
  simp only [String.toList_append, count, String.toList_ofList, List.append_assoc]
  rfl

theorem isSelfDelimiting_ratio : IsSelfDelimiting fun t : Tally =>
    numeral 10 t.passed ++ ['/'] ++ (numeral 10 t.total ++ ['\n']) := by
  have hslash : digit? 10 '/' = none := by decide
  have hfeed : digit? 10 '\n' = none := by decide
  exact Tally.isSelfDelimiting_counts hslash hfeed [] []

theorem isSelfDelimiting_stageLine :
    IsSelfDelimiting fun st => (stageLine false st).toList ++ ['\n'] := by
  have hlabel : IsSelfDelimiting fun s : Stage => (label s.name ++ ": ").toList :=
    (Stage.isSelfDelimiting_name.followed fun s =>
      List.replicate (labelWidth - s.name.length) ' ' ++ ": ".toList).congr fun s => by
        simp only [label, String.toList_append, String.toList_ofList, List.append_assoc]
  exact (hlabel.append isSelfDelimiting_ratio).congr fun st => toList_line _ _

/-- Every line about a stage begins with a letter of its name. -/
theorem opensApart_stageLine {mark : Char} (hmark : mark ∉ ['l', 'p', 's', 'e'])
    (st : Stage × Tally) : OpensApart mark ((stageLine false st).toList ++ ['\n']) := by
  obtain ⟨c, hc, hletter⟩ : ∃ c, st.1.name.toList.head? = some c ∧ c ∈ ['l', 'p', 's', 'e'] := by
    cases st.1 <;> exact ⟨_, rfl, by decide⟩
  have hopens : OpensApart mark st.1.name.toList :=
    ⟨c, hc, fun hsame => hmark (hsame ▸ hletter)⟩
  rw [stageLine, label, String.toList_append, String.toList_append, String.toList_append]
  exact (((hopens.append _).append _).append _).append _

theorem isSelfDelimiting_totalLine (name : String) :
    IsSelfDelimiting fun t => (totalLine false name t).toList ++ ['\n'] := by
  refine (isSelfDelimiting_ratio.behind (label name ++ ": ").toList).congr fun t => ?_
  rw [totalLine, paint_false]
  exact toList_line _ _

/-- What a summary says below the block about bad files. -/
abbrev Tallies := List (Stage × Tally) × Tally × Tally

/-- The lines about them, up to the end of the text form. -/
def tallyLines (x : Tallies) : List String :=
  x.1.map (stageLine false) ++
    [rule, totalLine false "Required" x.2.1, totalLine false "Total" x.2.2]

/-- The lines about stages end with the rule, which begins like none of them. -/
theorem isSelfDelimiting_tallyLines : IsSelfDelimiting fun x => closed (tallyLines x) := by
  have hrule : rule.toList ++ ['\n'] = '-' :: (List.replicate 79 '-' ++ ['\n']) :=
    congrArg (· ++ ['\n']) toList_rule
  have hopens : ∀ st, OpensApart '-' ((stageLine false st).toList ++ ['\n']) :=
    opensApart_stageLine (by decide)
  have hstages := isSelfDelimiting_stageLine.flatMap hopens (List.replicate 79 '-' ++ ['\n'])
  refine (hstages.append ((isSelfDelimiting_totalLine "Required").append
    (isSelfDelimiting_totalLine "Total"))).congr fun x => ?_
  rw [tallyLines, closed_append, closed, List.flatMap_map, ← hrule, List.append_assoc]
  simp only [closed, List.flatMap_cons, List.flatMap_nil, List.append_nil]

theorem opensApart_tallyLines (x : Tallies) : OpensApart 'B' (closed (tallyLines x)) := by
  rw [tallyLines, closed_append]
  obtain ⟨stages, totals⟩ := x
  cases stages with
  | nil =>
    have hrule : OpensApart 'B' rule.toList := toList_rule ▸ ⟨'-', rfl, by decide⟩
    simp only [List.map_nil, closed, List.flatMap_nil, List.nil_append, List.flatMap_cons]
    exact (hrule.append _).append _
  | cons st stages => exact ((opensApart_stageLine (by decide) st).append _).append _

/-- The lines about bad files, of which there are none without such files. -/
def badLines (n : Nat) : List String :=
  if n > 0 then [label "Bad files" ++ ": " ++ count n, rule] else []

theorem closed_badLines (n : Nat) : closed (badLines (n + 1)) =
    (label "Bad files" ++ ": ").toList ++
      (numeral 10 (n + 1) ++ '\n' :: (rule.toList ++ ['\n'])) := by
  rw [badLines, if_pos (Nat.succ_pos n)]
  simp only [closed, List.flatMap_cons, List.flatMap_nil, List.append_nil, String.toList_append,
    count, String.toList_ofList, List.append_assoc, List.singleton_append]

theorem opens_badLines (n : Nat) : ∃ rest, closed (badLines (n + 1)) = 'B' :: rest := by
  have hlabel : "Bad files".toList = 'B' :: "ad files".toList := by decide
  rw [closed_badLines, label, String.toList_append, String.toList_append, hlabel]
  exact ⟨_, rfl⟩

/-- Whether there is a block about bad files shows in the first letter. -/
theorem isSelfDelimiting_lines : IsSelfDelimiting fun nx : Nat × Tallies =>
    closed (badLines nx.1) ++ closed (tallyLines nx.2) := by
  have hblock : IsSelfDelimiting fun n => (label "Bad files" ++ ": ").toList ++
      (numeral 10 n ++ '\n' :: (rule.toList ++ ['\n'])) :=
    (isSelfDelimiting_numeral (by decide) (by decide) _).behind _
  rintro ⟨n, x⟩ ⟨m, y⟩ r s h
  simp only [List.append_assoc] at h
  cases n with
  | zero =>
    cases m with
    | zero =>
      obtain ⟨hxy, hrest⟩ := isSelfDelimiting_tallyLines h
      exact ⟨congrArg (Prod.mk 0) hxy, hrest⟩
    | succ m =>
      obtain ⟨rest, hblock⟩ := opens_badLines m
      rw [hblock] at h
      exact absurd h ((opensApart_tallyLines x).ne _ _)
  | succ n =>
    cases m with
    | zero =>
      obtain ⟨rest, hblock⟩ := opens_badLines n
      rw [hblock] at h
      exact absurd h.symm ((opensApart_tallyLines y).ne _ _)
    | succ m =>
      rw [closed_badLines, closed_badLines] at h
      obtain ⟨hnm, hrest⟩ := hblock h
      obtain ⟨hxy, hrest⟩ := isSelfDelimiting_tallyLines hrest
      exact ⟨Prod.ext hnm hxy, hrest⟩

theorem closed_textLines (s : Summary) : closed (s.textLines false) =
    closed [rule] ++
      (closed (badLines s.badFiles) ++ closed (tallyLines (s.stages, s.required, s.total))) := by
  rw [← closed_append, ← closed_append]
  simp only [textLines, badLines, tallyLines, List.append_assoc]

/-- All that a summary says, in the order of the text form. -/
def content (s : Summary) : Nat × Tallies := (s.badFiles, s.stages, s.required, s.total)

theorem content_injective : Function.Injective content := by
  intro s t h
  cases s
  cases t
  simp only [content, Prod.mk.injEq] at h
  obtain ⟨rfl, rfl, rfl, rfl⟩ := h
  rfl

theorem text_inj {s t : Summary} : s.text false = t.text false ↔ s = t := by
  constructor
  · intro h
    have hclosed (u : Summary) : (u.text false).toList ++ ['\n'] = closed (u.textLines false) :=
      join_closed (List.cons_ne_nil _ _)
    have hsame : closed (s.textLines false) = closed (t.textLines false) := by
      rw [← hclosed, h, hclosed]
    rw [closed_textLines, closed_textLines] at hsame
    exact content_injective (isSelfDelimiting_lines.injective (List.append_cancel_left hsame))
  · exact congrArg (text · false)

theorem toList_join (sep : String) (parts : List String) :
    (join sep parts).toList = glue sep.toList (parts.map String.toList) := by
  induction parts with
  | nil => rw [join, String.intercalate_nil]; rfl
  | cons p parts ih =>
    cases parts with
    | nil => rw [join, String.intercalate_singleton]; rfl
    | cons q parts =>
      rw [join, String.intercalate_cons_cons, String.toList_append, String.toList_append, ← join,
        ih]
      rfl

theorem isSelfDelimiting_tallyMembers (indent : String) :
    IsSelfDelimiting fun t => (tallyMembers indent t).toList := by
  have hmark : digit? 10 ',' = none := by decide
  have hmark' : digit? 10 '\n' = none := by decide
  have hcounts := Tally.isSelfDelimiting_counts hmark hmark'
    ('\n' :: (indent ++ "\"total\": ").toList) []
  refine (hcounts.behind (indent ++ "\"passed\": ").toList).congr fun t => ?_
  have hcomma : ",\n".toList = [',', '\n'] := rfl
  have hfeed : "\n".toList = ['\n'] := rfl
  simp only [tallyMembers, String.toList_append, count, String.toList_ofList, List.append_assoc,
    List.cons_append, List.nil_append, hcomma, hfeed]

theorem isSelfDelimiting_tallyObject : IsSelfDelimiting fun t => (tallyObject t).toList := by
  refine (((isSelfDelimiting_tallyMembers "    ").followed fun _ => "  \x7d".toList).behind
    "\x7b\n".toList).congr fun t => ?_
  unfold tallyObject
  simp only [String.toList_append, List.append_assoc]

theorem isSelfDelimiting_stageObject : IsSelfDelimiting fun st => (stageObject st).toList := by
  refine (((Stage.isSelfDelimiting_name.followed fun _ => "\",\n".toList).append
    ((isSelfDelimiting_tallyMembers "      ").followed fun _ => "    \x7d".toList)).behind
      "    \x7b\n      \"stage\": \"".toList).congr fun st => ?_
  unfold stageObject
  simp only [String.toList_append, List.append_assoc]

theorem isSelfDelimiting_stageArray :
    IsSelfDelimiting fun stages => (stageArray stages).toList := by
  have hopens (st : Stage × Tally) : OpensApart '\n' (stageObject st).toList := by
    unfold stageObject
    simp only [String.toList_append, List.append_assoc]
    exact OpensApart.append ⟨' ', rfl, by decide⟩ _
  have hsep : OpensApart '\n' [',', '\n'] := ⟨',', rfl, by decide⟩
  have hstages := isSelfDelimiting_stageObject.glue hopens hsep "  ]".toList
  have hcons (st : Stage × Tally) (stages : List (Stage × Tally)) :
      (stageArray (st :: stages)).toList = '[' :: '\n' ::
        (glue [',', '\n'] ((st :: stages).map fun st => (stageObject st).toList) ++
          '\n' :: "  ]".toList) := by
    rw [stageArray, List.isEmpty_cons, if_neg Bool.false_ne_true, String.toList_append,
      String.toList_append, toList_join, List.map_map]
    rfl
  intro stages other r s h
  cases stages with
  | nil =>
    cases other with
    | nil => exact ⟨rfl, List.append_cancel_left h⟩
    | cons st other =>
      simp only [hcons] at h
      exact absurd (List.cons.inj (List.cons.inj h).2).1 (by decide)
  | cons st stages =>
    simp only [hcons] at h
    cases other with
    | nil => exact absurd (List.cons.inj (List.cons.inj h).2).1 (by decide)
    | cons st' other =>
      simp only [hcons] at h
      exact hstages (List.cons.inj (List.cons.inj h).2).2

theorem json_inj {s t : Summary} : s.json = t.json ↔ s = t := by
  constructor
  · intro h
    have hchars := congrArg String.toList h
    unfold json at hchars
    simp only [String.toList_append, List.append_assoc] at hchars
    obtain ⟨hstages, hchars⟩ :=
      isSelfDelimiting_stageArray (List.append_cancel_left hchars)
    obtain ⟨hrequired, hchars⟩ :=
      isSelfDelimiting_tallyObject (List.append_cancel_left hchars)
    obtain ⟨htotal, hchars⟩ := isSelfDelimiting_tallyObject (List.append_cancel_left hchars)
    have hcount := List.append_cancel_right (List.append_cancel_left hchars)
    rw [count, count, String.toList_ofList, String.toList_ofList] at hcount
    have hbad := (numeral_inj (by decide)).mp hcount
    exact content_injective (by rw [content, content, hstages, hrequired, htotal, hbad])
  · exact congrArg json

theorem escape_not_mem_count (n : Nat) : '\x1b' ∉ (count n).toList := by
  rw [count, String.toList_ofList]
  exact fun h => absurd (isSome_digit?_of_mem_numeral (by decide) h) (by decide)

theorem escape_not_mem_label {name : String} (h : '\x1b' ∉ name.toList) :
    '\x1b' ∉ (label name).toList := by
  rw [label, String.toList_append, String.toList_ofList, List.mem_append, not_or]
  exact ⟨h, fun hblank => absurd (List.eq_of_mem_replicate hblank) (by decide)⟩

theorem escape_not_mem_rule : '\x1b' ∉ rule.toList := by
  unfold rule
  rw [String.toList_ofList]
  exact fun h => absurd (List.eq_of_mem_replicate h) (by decide)

theorem strips_ratio (t : Tally) : Style.Strips (ratio true t) (ratio false t) := by
  have hstyle : (if t.allPassed then Style.green else Style.red) ≠ .yellow := by
    split <;> decide
  rw [ratio, ratio, paint_false]
  exact ((Style.Strips.paint hstyle (escape_not_mem_count _)).append (.refl (by decide))).append
    (.refl (escape_not_mem_count _))

theorem strips_stageLine (st : Stage × Tally) :
    Style.Strips (stageLine true st) (stageLine false st) := by
  have hname : '\x1b' ∉ st.1.name.toList := by cases st.1 <;> decide
  exact ((Style.Strips.refl (escape_not_mem_label hname)).append (.refl (by decide))).append
    (strips_ratio st.2)

/-- The label is filled up before it is painted. -/
theorem strips_totalLine {name : String} (h : '\x1b' ∉ name.toList) (t : Tally) :
    Style.Strips (totalLine true name t) (totalLine false name t) := by
  rw [totalLine, totalLine, paint_false]
  exact ((Style.Strips.paint (by decide) (escape_not_mem_label h)).append
    (.refl (by decide))).append (strips_ratio t)

theorem strips_text (s : Summary) : Style.Strips (s.text true) (s.text false) := by
  have hrule : Style.Strips rule rule := .refl escape_not_mem_rule
  have hbad : List.Forall₂ Style.Strips (badLines s.badFiles) (badLines s.badFiles) := by
    rw [badLines]
    split
    · exact .cons (((Style.Strips.refl (escape_not_mem_label (by decide))).append
        (.refl (by decide))).append (.refl (escape_not_mem_count _))) (.cons hrule .nil)
    · exact .nil
  have hstages : List.Forall₂ Style.Strips (s.stages.map (stageLine true))
      (s.stages.map (stageLine false)) :=
    List.forall₂_map_left_iff.mpr (List.forall₂_map_right_iff.mpr
      (List.forall₂_same.mpr fun st _ => strips_stageLine st))
  refine .join (List.rel_append (List.rel_append (List.rel_append (.cons hrule .nil) hbad)
    hstages) ?_)
  exact .cons hrule (.cons (strips_totalLine (by decide) _)
    (.cons (strips_totalLine (by decide) _) .nil))

end Summary

namespace Counters

theorem stages_inj {c d : Counters} : c.stages = d.stages ↔
    c.stages.map Prod.fst = d.stages.map Prod.fst ∧ ∀ s, c.stage s = d.stage s := by
  constructor
  · intro h
    have htallies (s : Stage) : c.tallies.get s = d.tallies.get s :=
      Option.ext fun t => by rw [← mem_stages_iff, h, mem_stages_iff]
    exact ⟨congrArg _ h, fun s => by rw [stage, htallies, stage]⟩
  · rintro ⟨hseen, hstage⟩
    have hlisted (s : Stage) :
        (c.tallies.get s).isSome = (d.tallies.get s).isSome := by
      have hmem : s ∈ c.stages.map Prod.fst ↔ s ∈ d.stages.map Prod.fst := by rw [hseen]
      simpa only [map_fst_stages, List.mem_filter, Stage.mem_all, true_and, Bool.coe_iff_coe]
        using hmem
    have htallies (s : Stage) : c.tallies.get s = d.tallies.get s := by
      have hsame := hstage s
      have hboth := hlisted s
      rw [stage, stage] at hsame
      cases hc : c.tallies.get s <;> cases hd : d.tallies.get s <;> simp_all
    simp only [stages, htallies]

end Counters

/-- The text with styles is the text without them, once the sequences that switch styles are
deleted. Two counters have the same text form if and only if they have the same JSON form, and that
is if and only if they have the same summary: the same stages seen and the same tally for each, the
same tallies of required and of all outcomes, and as many bad files. -/
theorem Summary.forms_of_counters (c d : Counters) :
    let s := Summary.ofCounters c
    let t := Summary.ofCounters d
    Style.strip (s.text true) = s.text false ∧
    (s.text false = t.text false ↔ s.json = t.json) ∧
    (s.json = t.json ↔ s = t) ∧
    (s = t ↔ c.stages.map Prod.fst = d.stages.map Prod.fst ∧
      (∀ stage, c.stage stage = d.stage stage) ∧ c.required = d.required ∧ c.total = d.total ∧
      c.badFiles = d.badFiles) := by
  intro s t
  refine ⟨(strips_text s).strip_eq, text_inj.trans json_inj.symm, json_inj, ?_⟩
  simp only [s, t, ofCounters, Summary.mk.injEq, Counters.stages_inj, and_assoc]

end EngineTrials
