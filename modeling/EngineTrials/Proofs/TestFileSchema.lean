import EngineTrials.CaseFile.TestFile
import EngineTrials.Proofs.Mappings

/-!
# The schema of test files

Which documents describe a test case, and which case that is. The schema is stated on the tree, from
the checks of a stage up to the file, and each reader is shown to accept its part of it.
-/
namespace EngineTrials.CaseFile.TestFile
open Text Shape Yaml

/-- The keys of a stage. -/
inductive Check
  | returnCode
  | errorCount
  | stderr
  | stdout
deriving DecidableEq

namespace Check

def name : Check → String
  | returnCode => "returncode"
  | errorCount => "num_err"
  | stderr => "err"
  | stdout => "out"

/-- What a check is held against. -/
def Value : Check → Type
  | returnCode => Int
  | errorCount => Nat
  | stderr | stdout => String

/-- What is declared for a check, if it is. -/
def of : (c : Check) → Expectation → Option c.Value
  | returnCode, e => e.returnCode
  | errorCount, e => e.errorCount
  | stderr, e => e.stderr
  | stdout, e => e.stdout

/-- Given as null, a check is held against zero or the empty text. -/
def Means (d : Document) : (c : Check) → Node → c.Value → Prop
  | returnCode => d.NullOr (0 : Int) d.DenotesInteger32
  | errorCount => d.NullOr (0 : Nat) d.DenotesNatural64
  | stderr | stdout => d.NullOr "" d.HasText

def slots : Slots Expectation Check Value where
  get := of
  put
    | returnCode, a, e => { e with returnCode := some a }
    | errorCount, a, e => { e with errorCount := some a }
    | stderr, a, e => { e with stderr := some a }
    | stdout, a, e => { e with stdout := some a }
  get_put i a s := by cases i <;> rfl
  get_put_ne i j a s h := by cases i <;> cases j <;> first | rfl | exact absurd rfl h
  ext s t h := by
    cases s
    cases t
    simp only [Expectation.mk.injEq]
    exact ⟨h returnCode, h errorCount, h stderr, h stdout⟩

theorem mem_checkNames (s : String) : s ∈ checkNames ↔ ∃ c : Check, c.name = s := by
  constructor
  · intro h
    simp only [checkNames, List.mem_cons, List.not_mem_nil, or_false] at h
    rcases h with rfl | rfl | rfl | rfl
    exacts [⟨returnCode, rfl⟩, ⟨errorCount, rfl⟩, ⟨stderr, rfl⟩, ⟨stdout, rfl⟩]
  · rintro ⟨c, rfl⟩
    cases c <;> decide

end Check

/-- A mapping of checks, which declares the expectation. Nothing is expected where a key is
absent. -/
def DeclaresChecks (d : Document) (n : Node) (e : Expectation) : Prop :=
  ∃ fields, d.HasFields Check.name n fields ∧
    ∀ c : Check, Option.Rel (c.Means d) (fields.lookup c) (c.of e)

theorem addCheck_reads (d : Document) :
    ReadsRecord d Check.slots Check.name (Check.Means d) (addCheck d) := by
  refine readsRecord_of_fields Check.mem_checkNames fun e key value c t => ?_
  cases c with
  | returnCode => exact fill_put_ok_iff fun a => optional_getD_ok_iff fun _ _ => integer32_ok_iff
  | errorCount => exact fill_put_ok_iff fun a => optional_getD_ok_iff fun _ _ => natural64_ok_iff
  | stderr => exact fill_put_ok_iff fun a => optional_getD_ok_iff fun _ _ => text_ok_iff
  | stdout => exact fill_put_ok_iff fun a => optional_getD_ok_iff fun _ _ => text_ok_iff

theorem checks_ok_iff {d : Document} {n : Node} {e : Expectation} :
    checks d n = .ok e ↔ DeclaresChecks d n e :=
  (addCheck_reads d).read fun c => by cases c <;> rfl

/-- A key that names a stage: a scalar whose text is its name, or one of nothing but a tag of its
own that is. -/
def NamesStage (d : Document) (key : Node) (stage : Stage) : Prop :=
  ∃ p style s, d.view key = .scalar p style s ∧
    (p.tag.bind ownTag? = none ∧ s = stage.name ∨
      p.tag.bind ownTag? = some stage.name ∧ style = .plain ∧ (s = "" ∨ s ∈ nullNames))

/-- An entry of a stage. Given as null, the stage has no checks. -/
def DeclaresStage (d : Document) (key value : Node) (spec : StageSpec) : Prop :=
  NamesStage d key spec.stage ∧ d.NullOr {} (DeclaresChecks d) value spec.expectation

/-- A mapping of stages in this order, none of which comes twice. -/
def DeclaresStages (d : Document) (n : Node) (specs : List StageSpec) : Prop :=
  ∃ es, d.HasEntries n es ∧ List.Forall₂ (fun e spec => DeclaresStage d e.1 e.2 spec) es specs ∧
    (specs.map (·.stage)).Nodup

theorem ofName?_eq_some {s : String} {stage : Stage} :
    Stage.ofName? s = some stage ↔ s = stage.name := by
  constructor
  · intro h
    rw [Stage.ofName?] at h
    have hname := List.find?_some h
    exact (beq_iff_eq.mp hname).symm
  · rintro rfl
    exact stage.ofName?_name

theorem stageNamed_ok_iff {s : String} {stage : Stage} :
    stageNamed s = .ok stage ↔ s = stage.name := by
  rw [stageNamed, ← ofName?_eq_some]
  cases Stage.ofName? s <;> simp

theorem nothingBelow_ok_iff {p : Properties} {style : Yaml.Style} {s : String} :
    nothingBelow (.scalar p style s) = .ok () ↔
      style = .plain ∧ (s = "" ∨ s ∈ nullNames) := by
  simp only [nothingBelow, List.contains_iff_mem]
  split <;> simp_all

/-- The stage that a tag names, with nothing below it. -/
theorem stageOf_tagged {n : Node} {name : String} {stage : Stage} :
    (do
      let stage ← stageNamed name
      nothingBelow n
      return stage : Result Stage) = .ok stage ↔
      name = stage.name ∧ nothingBelow n = .ok () := by
  simp only [Result.bind_eq_ok, stageNamed_ok_iff, Result.pure_eq_ok]
  constructor
  · rintro ⟨_, rfl, ⟨⟩, hbelow, rfl⟩
    exact ⟨rfl, hbelow⟩
  · rintro ⟨rfl, hbelow⟩
    exact ⟨stage, rfl, (), hbelow, rfl⟩

/-- A collection names no stage, since there is something below its tag if it has one. -/
theorem collection_names_nothing {n : Node} {stage : Stage} (tag? : Option String)
    (hn : nothingBelow n ≠ .ok ()) :
    (match tag? with
      | some name => do
        let stage ← stageNamed name
        nothingBelow n
        return stage
      | none => reject tagWanted n : Result Stage) ≠ .ok stage := by
  cases tag? with
  | some name => exact fun h => hn (stageOf_tagged.mp h).2
  | none => exact reject_ne_ok _ _ _

theorem stageOf_ok_iff {d : Document} {key : Node} {stage : Stage} :
    stageOf d key = .ok stage ↔ NamesStage d key stage := by
  simp only [stageOf, NamesStage]
  cases hv : d.view key with
  | scalar p style s =>
    simp only [Node.scalar.injEq, and_assoc, exists_and_left, exists_eq_left']
    cases ht : p.tag.bind ownTag? with
    | none =>
      rw [stageNamed_ok_iff]
      simp
    | some name =>
      rw [stageOf_tagged, nothingBelow_ok_iff]
      simp
  | sequence p items =>
    simp only [reduceCtorEq, false_and, exists_false, iff_false]
    exact collection_names_nothing (p.tag.bind ownTag?) (by simp [nothingBelow, reject])
  | mapping p entries =>
    simp only [reduceCtorEq, false_and, exists_false, iff_false]
    exact collection_names_nothing (p.tag.bind ownTag?) (by simp [nothingBelow, reject])
  | reference anchor => simp [reject_ne_ok]
  | missing fault => simp [reject_ne_ok]

theorem optional_checks_iff {d : Document} {key value : Node} {e : Expectation} :
    (∃ o, optional checks d key value = .ok o ∧ o.getD {} = e) ↔
      d.NullOr {} (DeclaresChecks d) value e := by
  rw [← Result.map_eq_ok]
  exact optional_getD_ok_iff fun _ _ => checks_ok_iff

theorem addStage_reads (d : Document) :
    ReadsInOrder StageSpec.stage (DeclaresStage d) (addStage d) := by
  intro specs key value specs'
  simp only [addStage, Result.bind_eq_ok, stageOf_ok_iff]
  constructor
  · rintro ⟨stage, hstage, o, ho, h⟩
    split at h
    · cases h
    · next hnew =>
      have he := optional_checks_iff.mp ⟨o, ho, rfl⟩
      exact ⟨⟨stage, o.getD {}⟩, ⟨hstage, he⟩, by simpa using hnew, (Result.pure_eq_ok.mp h).symm⟩
  · rintro ⟨⟨stage, e⟩, ⟨hstage, he⟩, hnew, rfl⟩
    obtain ⟨o, ho, rfl⟩ := optional_checks_iff.mpr he
    exact ⟨stage, hstage, o, ho, if_neg (by simpa using hnew)⟩

theorem stages_ok_iff {d : Document} {n : Node} {specs : List StageSpec} :
    stages d n = .ok specs ↔ DeclaresStages d n specs :=
  (addStage_reads d).read

/-- The keys of a test file. -/
inductive Key
  | description
  | db
  | query
  | required
  | stages
deriving DecidableEq

namespace Key

def name : Key → String
  | description => "description"
  | db => "db"
  | query => "query"
  | required => "required"
  | stages => "stages"

def Value : Key → Type
  | description | db | query => String
  | required => Bool
  | stages => List StageSpec

/-- What a case has under the key. -/
def of : (k : Key) → TestCase → k.Value
  | description, c => c.description
  | db, c => c.database
  | query, c => c.query
  | required, c => c.required
  | stages, c => c.stages

def Means (d : Document) : (k : Key) → Node → k.Value → Prop
  | description | db | query => d.HasText
  | required => d.DenotesBoolean
  | stages => DeclaresStages d

def slots : Slots Fields Key Value where
  get
    | description, f => f.description
    | db, f => f.database
    | query, f => f.query
    | required, f => f.required
    | stages, f => f.stages
  put
    | description, a, f => { f with description := some a }
    | db, a, f => { f with database := some a }
    | query, a, f => { f with query := some a }
    | required, a, f => { f with required := some a }
    | stages, a, f => { f with stages := some a }
  get_put i a s := by cases i <;> rfl
  get_put_ne i j a s h := by cases i <;> cases j <;> first | rfl | exact absurd rfl h
  ext s t h := by
    cases s
    cases t
    simp only [Fields.mk.injEq]
    exact ⟨h description, h db, h query, h required, h stages⟩

theorem mem_fieldNames (s : String) : s ∈ fieldNames ↔ ∃ k : Key, k.name = s := by
  constructor
  · intro h
    simp only [fieldNames, List.mem_cons, List.not_mem_nil, or_false] at h
    rcases h with rfl | rfl | rfl | rfl | rfl
    exacts [⟨description, rfl⟩, ⟨db, rfl⟩, ⟨query, rfl⟩, ⟨required, rfl⟩, ⟨stages, rfl⟩]
  · rintro ⟨k, rfl⟩
    cases k <;> decide

end Key

/-- A mapping with each of the keys once and no other, and under each what the case has. -/
def DescribesCase (d : Document) (n : Node) (c : TestCase) : Prop :=
  ∃ fields, d.HasFields Key.name n fields ∧
    ∀ k : Key, ∃ value, fields.lookup k = some value ∧ k.Means d value (k.of c)

theorem addField_reads (d : Document) :
    ReadsRecord d Key.slots Key.name (Key.Means d) (addField d) := by
  refine readsRecord_of_fields Key.mem_fieldNames fun f key value k t => ?_
  cases k with
  | description => exact fill_put_ok_iff fun a => Result.within_eq_ok.trans text_ok_iff
  | db => exact fill_put_ok_iff fun a => Result.within_eq_ok.trans text_ok_iff
  | query => exact fill_put_ok_iff fun a => Result.within_eq_ok.trans text_ok_iff
  | required => exact fill_put_ok_iff fun a => Result.within_eq_ok.trans boolean_ok_iff
  | stages => exact fill_put_ok_iff fun a => Result.within_eq_ok.trans stages_ok_iff

/-- The fields that have all been met. -/
def Fields.ofCase (c : TestCase) : Fields where
  description := some c.description
  database := some c.database
  query := some c.query
  required := some c.required
  stages := some c.stages

theorem get_ofCase (c : TestCase) (k : Key) :
    Key.slots.get k (.ofCase c) = some (k.of c) := by
  cases k <;> rfl

theorem case_ok_iff_fields {path : Path} {d : Document} {n : Node} {c : TestCase} :
    case path d n = .ok c ↔ c.path = path ∧
      (entries "struct RawTestCase" d n >>= foldEntries (addField d) {}) = .ok (.ofCase c) := by
  simp only [case, Result.bind_eq_ok, required_ok_iff, Result.pure_eq_ok]
  constructor
  · rintro ⟨es, hes, f, hf, _, h₁, _, h₂, _, h₃, _, h₄, _, h₅, hc⟩
    have hfields : f = .ofCase c := Key.slots.ext _ _ fun k => by
      subst hc
      cases k
      exacts [h₁, h₂, h₃, h₄, h₅]
    exact ⟨by rw [← hc], es, hes, by rw [hf, hfields]⟩
  · rintro ⟨rfl, es, hes, hf⟩
    exact ⟨es, hes, _, hf, _, rfl, _, rfl, _, rfl, _, rfl, _, rfl, rfl⟩

theorem case_ok_iff {path : Path} {d : Document} {n : Node} {c : TestCase} :
    case path d n = .ok c ↔ c.path = path ∧ DescribesCase d n c := by
  rw [case_ok_iff_fields, (addField_reads d).read fun k => by cases k <;> rfl]
  simp only [get_ofCase, rel_some_iff, DescribesCase]

/-- A case has stages, and a setup is configured for its database if one of them needs it. -/
structure IsRunnable (commands : StageCommands) (c : TestCase) : Prop where
  nonempty : c.stages ≠ []
  setup : (∀ spec ∈ c.stages, spec.stage.needsSetup = false) ∨ commands.hasSetup c.database

/-- The stages that need a setup are `sema` and `end2end`. -/
theorem isRunnable_iff {commands : StageCommands} {c : TestCase} : IsRunnable commands c ↔
    c.stages ≠ [] ∧ ((∃ spec ∈ c.stages, spec.stage = .sema ∨ spec.stage = .end2end) →
      c.database ∈ commands.setups.databases) := by
  constructor
  · rintro ⟨hne, hfree | hset⟩
    · refine ⟨hne, fun ⟨spec, hspec, hstage⟩ => ?_⟩
      rw [← Stage.needsSetup_iff, hfree spec hspec] at hstage
      cases hstage
    · exact ⟨hne, fun _ => Setups.isSome_find?_iff.mp hset⟩
  · rintro ⟨hne, hneeded⟩
    refine ⟨hne, ?_⟩
    by_cases hsome : ∃ spec ∈ c.stages, spec.stage = .sema ∨ spec.stage = .end2end
    · exact .inr (Setups.isSome_find?_iff.mpr (hneeded hsome))
    · exact .inl fun spec hspec => Bool.eq_false_iff.mpr fun hneeds =>
        hsome ⟨spec, hspec, Stage.needsSetup_iff.mp hneeds⟩

theorem accept_ok_iff {commands : StageCommands} {c c' : TestCase} :
    accept commands c = .ok c' ↔ c = c' ∧ IsRunnable commands c := by
  have hset : (!commands.hasSetup c.database) = true ↔
      c.database ∉ commands.setups.databases := by
    rw [Bool.not_eq_true', ← Bool.not_eq_true, ← Setups.isSome_find?_iff]
    rfl
  simp only [accept, List.isEmpty_iff, Bool.and_eq_true, List.any_eq_true, Stage.needsSetup_iff,
    hset, isRunnable_iff]
  by_cases hnil : c.stages = []
  · rw [if_pos hnil]
    exact ⟨nofun, fun h => absurd hnil h.2.1⟩
  rw [if_neg hnil]
  by_cases hs : (∃ spec ∈ c.stages, spec.stage = .sema ∨ spec.stage = .end2end) ∧
      c.database ∉ commands.setups.databases
  · rw [if_pos hs]
    exact ⟨nofun, fun h => absurd (h.2.2 hs.1) hs.2⟩
  · rw [if_neg hs, Except.ok.injEq]
    exact ⟨fun h => ⟨h, hnil, fun hneeded => Decidable.not_not.mp fun hnone => hs ⟨hneeded, hnone⟩⟩,
      And.left⟩

theorem parse_ok_iff {path : Path} {contents : String} {commands : StageCommands} {c : TestCase} :
    parse path contents commands = .ok c ↔
      fromText (case path) contents = .ok c ∧ IsRunnable commands c := by
  unfold parse
  generalize fromText (case path) contents = r
  cases r with
  | error problem => exact ⟨nofun, fun h => nomatch h.1⟩
  | ok c' =>
    have hok : (Except.ok c' : Result TestCase).mapError Refusal.problem = .ok c' := rfl
    simp only [hok, Result.mapError_eq_ok, accept_ok_iff, Except.ok.injEq]
    constructor
    · rintro ⟨rfl, h⟩
      exact ⟨rfl, h⟩
    · rintro ⟨rfl, h⟩
      exact ⟨rfl, h⟩

/-- A test file is read exactly if it is one document, free of faults, that describes a case which
can be run, and this case is what is read. -/
theorem parse_ok_iff_describes (path : Path) (contents : String) (commands : StageCommands)
    (c : TestCase) :
    parse path contents commands = .ok c ↔
      (Document.ofText contents).IsWhole ∧ c.path = path ∧
        DescribesCase (Document.ofText contents) (Document.ofText contents).root c ∧
        IsRunnable commands c := by
  rw [parse_ok_iff, fromText_ok_iff, case_ok_iff]
  simp only [and_assoc]

-- A check that is given as null is declared, and one that is absent is not.
example : parse ⟨"t.yml"⟩
    "description: d\ndb: x\nquery: q\nrequired: false\nstages:\n  parser:\n    num_err:\n"
    { binDir := ⟨"bin"⟩, setups := {} } =
      .ok ⟨⟨"t.yml"⟩, "d", "x", "q", false, [⟨.parser, ⟨none, some 0, none, none⟩⟩]⟩ := by
  decide +kernel

end EngineTrials.CaseFile.TestFile
