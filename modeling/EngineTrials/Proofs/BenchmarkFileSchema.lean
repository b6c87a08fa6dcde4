import EngineTrials.CaseFile.BenchmarkFile
import EngineTrials.Proofs.Mappings

/-!
# The schema of benchmark files

Which documents describe a benchmark file, and which file that is. That no two cases have the same
name is kept apart from the rest: where only this is missing, the complaint is about the first case
whose name was met before.
-/
namespace EngineTrials.CaseFile.Benchmark
open Text Shape Yaml

/-- An entry of a case: its name and its query, both of them scalars. -/
def DeclaresCase (d : Document) (key value : Node) (c : BenchmarkCase) : Prop :=
  d.HasText key c.name ∧ d.HasText value c.query

/-- A mapping of these cases in this order, whatever their names are. -/
def DeclaresCases (d : Document) (n : Node) (cs : List BenchmarkCase) : Prop :=
  ∃ es, d.HasEntries n es ∧ List.Forall₂ (fun e c => DeclaresCase d e.1 e.2 c) es cs

/-- Cases that can be told apart by their names. -/
def AreDistinct (cs : List BenchmarkCase) : Prop := (cs.map (·.name)).Nodup

theorem addCase_eq {d : Document} {key value : Node} {c : BenchmarkCase}
    (h : DeclaresCase d key value c) (cs : List BenchmarkCase) :
    addCase d cs key value =
      if c.name ∈ cs.map (·.name) then .error (.here (.duplicateKey (Quoted.quote c.name)))
      else .ok (cs ++ [c]) := by
  have hnames : cs.any (·.name = c.name) = true ↔ c.name ∈ cs.map (·.name) := by simp
  rw [addCase, text_ok_iff.mpr h.1, text_ok_iff.mpr h.2, ← ite_cond_congr (propext hnames)]
  rfl

theorem addCase_reads (d : Document) :
    ReadsInOrder BenchmarkCase.name (DeclaresCase d) (addCase d) := by
  intro cs key value cs'
  constructor
  · intro h
    obtain ⟨name, hname, hrest⟩ := Result.bind_eq_ok.mp h
    obtain ⟨query, hquery, -⟩ := Result.bind_eq_ok.mp hrest
    have hdeclares : DeclaresCase d key value ⟨name, query⟩ :=
      ⟨text_ok_iff.mp hname, text_ok_iff.mp (Result.within_eq_ok.mp hquery)⟩
    rw [addCase_eq hdeclares] at h
    split at h
    · cases h
    · next hnew => exact ⟨_, hdeclares, hnew, (Except.ok.inj h).symm⟩
  · rintro ⟨c, hc, hnew, rfl⟩
    rw [addCase_eq hc, if_neg hnew]

theorem cases_ok_iff {d : Document} {n : Node} {cs : List BenchmarkCase} :
    cases d n = .ok cs ↔ DeclaresCases d n cs ∧ AreDistinct cs := by
  have hread : cases d n = .ok cs ↔ _ := (addCase_reads d).read
  rw [hread]
  exact ⟨fun ⟨es, hes, hcs, hdistinct⟩ => ⟨⟨es, hes, hcs⟩, hdistinct⟩,
    fun ⟨⟨es, hes, hcs⟩, hdistinct⟩ => ⟨es, hes, hcs, hdistinct⟩⟩

/-- The first case whose name was met before ends the reading. -/
theorem cases_of_repeated {d : Document} {n : Node} {front rest : List BenchmarkCase}
    {c : BenchmarkCase} (h : DeclaresCases d n (front ++ c :: rest)) (hfront : AreDistinct front)
    (hc : c.name ∈ front.map (·.name)) :
    cases d n = .error (.here (.duplicateKey (Quoted.quote c.name))) := by
  obtain ⟨es, hes, hcs⟩ := h
  have hbefore := List.forall₂_take_append es front (c :: rest) hcs
  obtain ⟨e, after, he, -, hsplit⟩ :=
    List.forall₂_cons_right_iff.mp (List.forall₂_drop_append es front (c :: rest) hcs)
  have hread : (es.take front.length).foldlM (fun cs e => addCase d cs e.1 e.2) [] = .ok front :=
    ((addCase_reads d).run _ [] front .nil).mpr ⟨front, hbefore, hfront, rfl⟩
  have hstep : addCase d front e.1 e.2 = .error (.here (.duplicateKey (Quoted.quote c.name))) := by
    rw [addCase_eq he, if_pos hc]
  rw [← List.take_append_drop front.length es, hsplit] at hes
  exact (readEntries_of_hasEntries (addCase d) hes []).trans (foldlM_eq_error hread hstep after)

/-- The keys of a benchmark file. -/
inductive Key
  | suite
  | benchmark
  | description
  | pattern
  | cases
deriving DecidableEq

namespace Key

def name : Key → String
  | suite => "suite"
  | benchmark => "benchmark"
  | description => "description"
  | pattern => "pattern"
  | cases => "cases"

def Value : Key → Type
  | suite | benchmark | description | pattern => String
  | cases => List BenchmarkCase

/-- What a description has under the key. -/
def of : (k : Key) → Description → k.Value
  | suite, s => s.suite
  | benchmark, s => s.benchmark
  | description, s => s.description
  | pattern, s => s.pattern
  | cases, s => s.cases

def Means (d : Document) : (k : Key) → Node → k.Value → Prop
  | suite | benchmark | description | pattern => d.HasText
  | cases => DeclaresCases d

/-- What is asked for besides. -/
def Admits : (k : Key) → k.Value → Prop
  | suite | benchmark | description | pattern => fun _ => True
  | cases => AreDistinct

def slots : Slots Fields Key Value where
  get
    | suite, f => f.suite
    | benchmark, f => f.benchmark
    | description, f => f.description
    | pattern, f => f.pattern
    | cases, f => f.cases
  put
    | suite, a, f => { f with suite := some a }
    | benchmark, a, f => { f with benchmark := some a }
    | description, a, f => { f with description := some a }
    | pattern, a, f => { f with pattern := some a }
    | cases, a, f => { f with cases := some a }
  get_put i a s := by cases i <;> rfl
  get_put_ne i j a s h := by cases i <;> cases j <;> first | rfl | exact absurd rfl h
  ext s t h := by
    cases s
    cases t
    simp only [Fields.mk.injEq]
    exact ⟨h suite, h benchmark, h description, h pattern, h cases⟩

theorem mem_fieldNames (s : String) : s ∈ fieldNames ↔ ∃ k : Key, k.name = s := by
  constructor
  · intro h
    simp only [fieldNames, List.mem_cons, List.not_mem_nil, or_false] at h
    rcases h with rfl | rfl | rfl | rfl | rfl
    exacts [⟨suite, rfl⟩, ⟨benchmark, rfl⟩, ⟨description, rfl⟩, ⟨pattern, rfl⟩, ⟨cases, rfl⟩]
  · rintro ⟨k, rfl⟩
    cases k <;> decide

end Key

/-- A mapping with each of the keys once and no other, and under each what the description has,
whatever the names of the cases are. -/
def Describes (d : Document) (n : Node) (s : Description) : Prop :=
  ∃ fields, d.HasFields Key.name n fields ∧
    ∀ k : Key, ∃ value, fields.lookup k = some value ∧ k.Means d value (k.of s)

theorem addField_reads (d : Document) :
    ReadsRecord d Key.slots Key.name (fun k n a => k.Means d n a ∧ k.Admits a) (addField d) := by
  refine readsRecord_of_fields Key.mem_fieldNames fun f key value k t => ?_
  have htext {n : Node} {s : String} : text d n = .ok s ↔ d.HasText n s ∧ True := by
    rw [text_ok_iff, and_true]
  cases k with
  | suite => exact fill_put_ok_iff fun a => Result.within_eq_ok.trans htext
  | benchmark => exact fill_put_ok_iff fun a => Result.within_eq_ok.trans htext
  | description => exact fill_put_ok_iff fun a => Result.within_eq_ok.trans htext
  | pattern => exact fill_put_ok_iff fun a => Result.within_eq_ok.trans htext
  | cases => exact fill_put_ok_iff fun a => Result.within_eq_ok.trans cases_ok_iff

/-- The fields that have all been met. -/
def Fields.ofDescription (s : Description) : Fields where
  suite := some s.suite
  benchmark := some s.benchmark
  description := some s.description
  pattern := some s.pattern
  cases := some s.cases

theorem get_ofDescription (s : Description) (k : Key) :
    Key.slots.get k (.ofDescription s) = some (k.of s) := by
  cases k <;> rfl

theorem describe_ok_iff_fields {d : Document} {n : Node} {s : Description} :
    describe d n = .ok s ↔
      (entries "struct RawBenchmarkFile" d n >>= foldEntries (addField d) {}) =
        .ok (.ofDescription s) := by
  simp only [describe, Result.bind_eq_ok, required_ok_iff, Result.pure_eq_ok]
  constructor
  · rintro ⟨es, hes, f, hf, _, h₁, _, h₂, _, h₃, _, h₄, _, h₅, hs⟩
    have hfields : f = .ofDescription s := Key.slots.ext _ _ fun k => by
      subst hs
      cases k
      exacts [h₁, h₂, h₃, h₄, h₅]
    exact ⟨es, hes, by rw [hf, hfields]⟩
  · rintro ⟨es, hes, hf⟩
    exact ⟨es, hes, _, hf, _, rfl, _, rfl, _, rfl, _, rfl, _, rfl, rfl⟩

theorem describe_ok_iff {d : Document} {n : Node} {s : Description} :
    describe d n = .ok s ↔ Describes d n s ∧ AreDistinct s.cases := by
  rw [describe_ok_iff_fields, (addField_reads d).read fun k => by cases k <;> rfl]
  simp only [get_ofDescription, rel_some_iff, Describes]
  constructor
  · rintro ⟨fields, hfields, h⟩
    obtain ⟨-, -, -, hdistinct⟩ := h .cases
    refine ⟨⟨fields, hfields, fun k => ?_⟩, hdistinct⟩
    obtain ⟨value, hvalue, hmeans, -⟩ := h k
    exact ⟨value, hvalue, hmeans⟩
  · rintro ⟨⟨fields, hfields, h⟩, hdistinct⟩
    refine ⟨fields, hfields, fun k => ?_⟩
    obtain ⟨value, hvalue, hmeans⟩ := h k
    refine ⟨value, hvalue, hmeans, ?_⟩
    cases k with
    | cases => exact hdistinct
    | _ => trivial

theorem addField_of_cases {d : Document} {f : Fields} {key : Node} (value : Node)
    (hkey : d.HasText key Key.cases.name) (hnone : f.cases = none) :
    addField d f key value =
      (do return { f with cases := some (← Result.within (keyName key) (cases d value)) }) := by
  have hfield : field fieldNames d key = .ok "cases" := field_ok_iff.mpr ⟨hkey, by decide⟩
  rw [addField, hfield]
  simp only [fill, hnone]
  cases cases d value <;> rfl

/-- The problem stands below the key of the cases, and everything in front of it is in order. -/
theorem describe_of_repeated {d : Document} {n : Node} {s : Description} (h : Describes d n s)
    {front rest : List BenchmarkCase} {c : BenchmarkCase} (hs : s.cases = front ++ c :: rest)
    (hfront : AreDistinct front) (hc : c.name ∈ front.map (·.name)) :
    ∃ key, d.HasText key Key.cases.name ∧
      describe d n = .error (.mismatch [keyName key] (.duplicateKey (Quoted.quote c.name))) := by
  obtain ⟨fields, ⟨⟨es, hes, hfields⟩, hnodup⟩, hmeans⟩ := h
  obtain ⟨value, hvalue, hcases⟩ := hmeans .cases
  obtain ⟨met, later, rfl, hmet⟩ := List.lookup_eq_some_iff.mp hvalue
  have hbefore := List.forall₂_take_append es met ((.cases, value) :: later) hfields
  obtain ⟨e, after, ⟨hkey, rfl⟩, -, hsplit⟩ :=
    List.forall₂_cons_right_iff.mp (List.forall₂_drop_append es met _ hfields)
  have hothers : ∀ f ∈ met, ∃ a, f.1.Means d f.2 a ∧ f.1.Admits a := by
    intro f hf
    obtain ⟨v, hv, hf₂⟩ := hmeans f.1
    rw [lookup_eq_some_of_mem hnodup (List.mem_append_left _ hf), Option.some.injEq] at hv
    subst hv
    have hne : Key.cases ≠ f.1 := bne_iff_ne.mp (hmet f hf)
    refine ⟨f.1.of s, hf₂, ?_⟩
    cases hf₁ : f.1 with
    | cases => exact absurd hf₁.symm hne
    | _ => trivial
  have hnodupMet : (met.map (·.1)).Nodup := by
    rw [List.map_append, List.nodup_append] at hnodup
    exact hnodup.1
  have hnone : ∀ f ∈ met, Key.slots.get f.1 {} = none := fun f _ => by cases f.1 <;> rfl
  obtain ⟨t, ht, hkept⟩ := (addField_reads d).exists_ok hbefore hnodupMet hothers hnone
  have hempty : t.cases = none := hkept .cases fun hmem => by
    obtain ⟨f, hf, hf₁⟩ := List.mem_map.mp hmem
    exact bne_iff_ne.mp (hmet f hf) hf₁.symm
  have hdeclares : DeclaresCases d e.2 s.cases := hcases
  rw [hs] at hdeclares
  have hrepeated := cases_of_repeated hdeclares hfront hc
  have hstep : addField d t e.1 e.2 =
      .error (.mismatch [keyName e.1] (.duplicateKey (Quoted.quote c.name))) := by
    rw [addField_of_cases _ hkey hempty, hrepeated]
    rfl
  have hread : (entries "struct RawBenchmarkFile" d n >>= foldEntries (addField d) {}) =
      es.foldlM (fun s e => addField d s e.1 e.2) {} :=
    readEntries_of_hasEntries (addField d) hes {}
  rw [← List.take_append_drop met.length es, hsplit, foldlM_eq_error ht hstep] at hread
  refine ⟨e.1, hkey, ?_⟩
  rw [describe, ← bind_assoc, hread]
  rfl

/-- The file that a description stands for, once its pattern is compiled. -/
def Description.file (s : Description) (path : Path) (pattern : Regex) : BenchmarkFile where
  path
  name := BenchmarkFile.nameOf path
  suite := s.suite
  benchmark := s.benchmark
  description := s.description
  pattern
  cases := s.cases

theorem accept_ok_iff {path : Path} {s : Description} {f : BenchmarkFile} :
    accept path s = .ok f ↔
      ∃ pattern, Regex.compile? s.pattern = some pattern ∧ s.cases ≠ [] ∧
        f = s.file path pattern := by
  rw [accept]
  cases Regex.compile? s.pattern with
  | none => simp
  | some pattern =>
    by_cases hnil : s.cases = []
    · simp [hnil]
    · simp only [List.isEmpty_iff, hnil, if_false, Except.ok.injEq, Option.some.injEq, ne_eq,
        not_false_eq_true, true_and, exists_eq_left']
      exact eq_comm

theorem parse_ok_iff {path : Path} {contents : String} {f : BenchmarkFile} :
    parse path contents = .ok f ↔
      ∃ s, fromText describe contents = .ok s ∧ accept path s = .ok f := by
  unfold parse
  generalize fromText describe contents = r
  cases r with
  | error problem => exact ⟨nofun, fun ⟨_, h, _⟩ => nomatch h⟩
  | ok s =>
    have hok : (Except.ok s : Result Description).mapError Refusal.problem = .ok s := rfl
    simp only [hok, Result.mapError_eq_ok, Except.ok.injEq, exists_eq_left']

theorem parse_of_describe_error {path : Path} {contents : String} {problem : Problem}
    (h : describe (Document.ofText contents) (Document.ofText contents).root = .error problem) :
    parse path contents = .error ⟨path, problem.message⟩ := by
  have htext : fromText describe contents = .error problem := by
    simp only [fromText, h, bind, Except.bind]
  unfold parse
  rw [htext]
  rfl

theorem message_duplicateKey (key shown : String) :
    (Problem.mismatch [key] (.duplicateKey shown)).message = key ++ ": duplicate key " ++ shown := by
  have hmessage : (Problem.mismatch [key] (.duplicateKey shown)).message =
      placeText [key] ++ ("duplicate key " ++ shown) := rfl
  have hplace : placeText [key] = key ++ ": " := by
    rw [placeText, join, String.intercalate_singleton]
    rfl
  have hwords : ": " ++ "duplicate key " = ": duplicate key " := by decide
  rw [hmessage, hplace, ← hwords]
  simp only [String.append_assoc]

theorem parse_of_repeated (path : Path) {contents : String} {s : Description}
    (hs : Describes (Document.ofText contents) (Document.ofText contents).root s)
    (hrepeated : ¬ AreDistinct s.cases) :
    ∃ front c rest, s.cases = front ++ c :: rest ∧ AreDistinct front ∧
      c.name ∈ front.map (·.name) ∧
      ∃ key, (Document.ofText contents).HasText key "cases" ∧ parse path contents =
        .error ⟨path, keyName key ++ ": duplicate key " ++ Quoted.quote c.name⟩ := by
  obtain ⟨front, c, rest, hcases, hfront, hc⟩ := exists_first_repeated hrepeated
  obtain ⟨key, hkey, hdescribe⟩ := describe_of_repeated hs hcases hfront hc
  refine ⟨front, c, rest, hcases, hfront, hc, key, hkey, ?_⟩
  rw [parse_of_describe_error hdescribe, message_duplicateKey]

/-- A benchmark file is read exactly if it is one document, free of faults, that describes cases of
different names, at least one of them, and a pattern that compiles; this is then the file. Where
nothing but the names is at fault, the complaint is about the first case with a name of one before
it. -/
theorem parse_by_schema (path : Path) (contents : String) :
    (∀ f, parse path contents = .ok f ↔
      (Document.ofText contents).IsWhole ∧ ∃ s pattern,
        Describes (Document.ofText contents) (Document.ofText contents).root s ∧
        AreDistinct s.cases ∧ s.cases ≠ [] ∧ Regex.compile? s.pattern = some pattern ∧
        f = s.file path pattern) ∧
    ∀ s, Describes (Document.ofText contents) (Document.ofText contents).root s →
      ¬ AreDistinct s.cases →
      ∃ front c rest, s.cases = front ++ c :: rest ∧ AreDistinct front ∧
        c.name ∈ front.map (·.name) ∧
        ∃ key, (Document.ofText contents).HasText key "cases" ∧ parse path contents =
          .error ⟨path, keyName key ++ ": duplicate key " ++ Quoted.quote c.name⟩ := by
  refine ⟨fun f => ?_, fun s hs hrepeated => parse_of_repeated path hs hrepeated⟩
  simp only [parse_ok_iff, fromText_ok_iff, describe_ok_iff, accept_ok_iff]
  constructor
  · rintro ⟨s, ⟨hwhole, hs, hdistinct⟩, pattern, hpattern, hne, hf⟩
    exact ⟨hwhole, s, pattern, hs, hdistinct, hne, hpattern, hf⟩
  · rintro ⟨hwhole, s, pattern, hs, hdistinct, hne, hpattern, hf⟩
    exact ⟨s, ⟨hwhole, hs, hdistinct⟩, pattern, hpattern, hne, hf⟩

-- Names are compared as texts, so quotes make no difference.
example : (parse ⟨"b.yml"⟩
    "suite: s\nbenchmark: b\ndescription: d\ncases:\n  10: q\n  a: q\n  \"10\": r\npattern: x\n").map
      (fun _ => ()) = .error ⟨⟨"b.yml"⟩, "cases: duplicate key \"10\""⟩ := by
  decide +kernel

end EngineTrials.CaseFile.Benchmark
