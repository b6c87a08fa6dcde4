import EngineTrials.Proofs.AcceptedLimits
import EngineTrials.Proofs.Utf8
import EngineTrials.Proofs.WrittenText

/-!
# Limits given in a file or by a variable

A limit can be given by a key of the file or by a variable. The two ways have their own errors and
their own idea of what is blank, but one way to read a text: if anything but blanks is in it, both
take it for the same duration or both reject it. They part at blank texts only. The file must not
give one, and a variable that holds one counts as not set. A number without a unit is that many
seconds, as long as these fit in a word.
-/
namespace EngineTrials.Config
open Text

/-- The limits that can be given. -/
inductive Limit
  | stage
  | bench
deriving DecidableEq

namespace Limit

/-- The key of the file. -/
def key : Limit → String
  | stage => "stage_timeout"
  | bench => "bench_timeout"

/-- The variable of the environment. -/
def checkedVariable : Limit → CheckedVariable
  | stage => .stageTimeout
  | bench => .benchTimeout

/-- The text that a file gives. -/
def given? (f : FileSettings) : Limit → Option String
  | stage => f.stageTimeout
  | bench => f.benchTimeout

def inForce (s : Settings) : Limit → Duration
  | stage => s.stageTimeout
  | bench => s.benchTimeout

theorem inForce_settled (limit : Limit) (root : Path) (home : Option Path)
    (F : Option FileSettings) (e : Environment) :
    limit.inForce (Settings.settled root home F e) =
      ((e.value? limit.checkedVariable.name).bind Duration.read?).getD
        (((F.bind limit.given?).bind Duration.read?).getD (limit.inForce { root, home })) := by
  cases limit <;> rfl

end Limit

variable {limit : Limit} {text : String}

namespace FileSettings

theorem IsUsable.reads {f : FileSettings} (h : f.IsUsable) (limit : Limit) :
    ∀ text ∈ limit.given? f, (Duration.read? text).isSome := by
  cases limit with
  | stage => exact h.stageTimeout
  | bench => exact h.benchTimeout

/-- Only one limit of the file may be wrong. -/
structure IsUsableBesides (f : FileSettings) (limit : Limit) : Prop where
  others : ∀ other ≠ limit, ∀ text ∈ other.given? f, (Duration.read? text).isSome
  repetitions : ∀ n ∈ f.repetitions, 1 ≤ n ∧ n ≤ 1000

theorem IsUsableBesides.isUsable {f : FileSettings} (h : f.IsUsableBesides limit)
    (hlimit : ∀ text ∈ limit.given? f, (Duration.read? text).isSome) : f.IsUsable := by
  have hall (other : Limit) : ∀ text ∈ other.given? f, (Duration.read? text).isSome := by
    by_cases hsame : other = limit
    · exact hsame ▸ hlimit
    · exact h.others other hsame
  exact ⟨hall .stage, hall .bench, h.repetitions⟩

/-- If nothing else can be wrong, the limit is to blame. -/
theorem IsUsableBesides.blames {f : FileSettings} (h : f.IsUsableBesides limit)
    (hgiven : limit.given? f = some text) {error : SettingsError} (herror : f.Blames error) :
    error = .invalidDuration limit.key text := by
  have hsame (other : Limit) {wrong : String} (hother : other.given? f = some wrong)
      (hread : Duration.read? wrong = none) : other = limit ∧ wrong = text := by
    by_cases hlimit : other = limit
    · rw [hlimit, hgiven] at hother
      exact ⟨hlimit, (Option.some.inj hother).symm⟩
    · have hsome := h.others other hlimit wrong hother
      rw [hread] at hsome
      cases hsome
  cases herror with
  | stageTimeout given unreadable =>
    obtain ⟨rfl, rfl⟩ := hsame .stage given unreadable
    rfl
  | benchTimeout given unreadable =>
    obtain ⟨rfl, rfl⟩ := hsame .bench given unreadable
    rfl
  | repetitions given outside => exact absurd (h.repetitions _ given) outside

end FileSettings

namespace Environment

variable {e : Environment}

/-- Only the variable of one limit may have a value of no use. -/
def IsUsableBesides (e : Environment) (limit : Limit) : Prop :=
  ∀ x ≠ limit.checkedVariable, e.rejects x = false

theorem IsUsableBesides.isUsable (h : e.IsUsableBesides limit)
    (hlimit : e.rejects limit.checkedVariable = false) : e.IsUsable := by
  intro x
  by_cases hsame : x = limit.checkedVariable
  · exact rejects_eq_false_iff.mp (hsame ▸ hlimit)
  · exact rejects_eq_false_iff.mp (h x hsame)

theorem rejects_checkedVariable (h : e.value? limit.checkedVariable.name = some text) :
    e.rejects limit.checkedVariable = !(Duration.read? text).isSome := by
  rw [rejects, h, Option.any_some]
  cases limit <;> rfl

theorem value?_of_not_blank {name : String} (hgiven : e.values (e.lead ++ name) = some text)
    (htext : ∃ c ∈ text.toList, isBlank c = false) : e.value? name = some text := by
  have hblank : isAllBlank text = false := by
    obtain ⟨c, hc, hnot⟩ := htext
    exact List.all_eq_false.mpr ⟨c, hc, ne_true_of_eq_false hnot⟩
  rw [value?, hgiven, Option.filter_some, hblank]
  rfl

theorem value?_of_blank {name : String} (hgiven : e.values (e.lead ++ name) = some text)
    (htext : ∀ c ∈ text.toList, isBlank c = true) : e.value? name = none := by
  have hblank : isAllBlank text = true := List.all_eq_true.mpr htext
  rw [value?, hgiven, Option.filter_some, hblank]
  rfl

/-- Looking at a variable that is not rejected leaves the environment as it was. -/
theorem consult_snd_of_accepted {α : Type} {x : CheckedVariable} {read : Reader α}
    (hread : Reads x read) (h : e.rejects x = false) : (e.consult x.name read).2 = e := by
  rw [consult]
  cases hvalue : e.value? x.name with
  | none => rfl
  | some value =>
    have haccepts := rejects_eq_false_iff.mp h value hvalue
    have hresult := hread (e.lead ++ x.name) value
    cases hok : read (e.lead ++ x.name) value with
    | ok a => simp only [hok]
    | error p =>
      simp only [hok] at hresult
      rw [haccepts] at hresult
      cases hresult.1

theorem duration_snd_of_accepted {x : CheckedVariable} (hx : x ≠ .repetitions)
    (h : e.rejects x = false) : (e.duration x.name).2 = e := by
  rw [duration_eq_consult, consult_snd_of_accepted (reads_duration hx) h]

theorem number_snd_of_accepted (h : e.rejects .repetitions = false) :
    (e.number "REPETITIONS" 1 Settings.maxRepetitions).2 = e := by
  have hkept : (e.consult CheckedVariable.repetitions.name readRepetitions).2 = e :=
    consult_snd_of_accepted reads_repetitions h
  rw [number_eq_consult]
  exact hkept

theorem duration_snd_of_unreadable {name : String} (hvalue : e.value? name = some text)
    (hread : Duration.read? text = none) :
    (e.duration name).2 = e.note (.invalidDuration (e.lead ++ name) text) := by
  rw [duration_eq_consult, consult, hvalue]
  simp only [readDuration, hread]

theorem checked_of_unreadable (h : e.IsUsableBesides limit)
    (hvalue : e.value? limit.checkedVariable.name = some text)
    (hread : Duration.read? text = none) :
    e.checked = e.note (.invalidDuration (e.lead ++ limit.checkedVariable.name) text) := by
  have hnoted := duration_snd_of_unreadable hvalue hread
  have hnumber (p : VariableProblem) :
      ((e.note p).number "REPETITIONS" 1 Settings.maxRepetitions).2 = e.note p :=
    number_snd_of_accepted (h .repetitions (by cases limit <;> decide))
  rw [checked]
  cases limit with
  | stage =>
    have hbench (p : VariableProblem) : ((e.note p).duration "BENCH_TIMEOUT").2 = e.note p :=
      duration_snd_of_accepted (x := .benchTimeout) (by decide) (h .benchTimeout (by decide))
    simp only [Limit.checkedVariable, CheckedVariable.name] at hnoted ⊢
    rw [hnoted, hbench, hnumber]
  | bench =>
    have hstage : (e.duration "STAGE_TIMEOUT").2 = e :=
      duration_snd_of_accepted (x := .stageTimeout) (by decide) (h .stageTimeout (by decide))
    simp only [Limit.checkedVariable, CheckedVariable.name] at hnoted ⊢
    rw [hstage, hnoted, hnumber]

end Environment

/-- Settings to be loaded, together with what is found in the file. -/
structure Loading where
  fs : FileSystem
  root : Path
  home : Option Path
  named : Option Path
  environment : Environment
  file : Option FileSettings
  found : Settings.Finds { root, home } fs named file
  fresh : environment.problems = []

namespace Loading

def result (l : Loading) : Except SettingsError Settings :=
  Settings.load l.fs l.root l.home l.named l.environment

/-- The file gives a text for a limit, which the environment leaves alone. Nothing else is wrong. -/
structure GivesInFile (l : Loading) (limit : Limit) (text : String) : Prop where
  file : ∃ f, l.file = some f ∧ limit.given? f = some text ∧ f.IsUsableBesides limit
  unset : l.environment.value? limit.checkedVariable.name = none
  others : l.environment.IsUsable

/-- A variable gives a text for a limit. Nothing else is wrong. -/
structure GivesByVariable (l : Loading) (limit : Limit) (text : String) : Prop where
  given : l.environment.values (l.environment.lead ++ limit.checkedVariable.name) = some text
  others : l.environment.IsUsableBesides limit
  file : ∀ f ∈ l.file, f.IsUsable

variable {l : Loading}

theorem result_eq (l : Loading) :
    l.result = Settings.layered { root := l.root, home := l.home } l.file l.environment :=
  Settings.load_eq_layered l.found l.environment

theorem result_of_usable (hfile : ∀ f ∈ l.file, f.IsUsable) (he : l.environment.IsUsable) :
    l.result = .ok (Settings.settled l.root l.home l.file l.environment) := by
  rw [result_eq]
  obtain ⟨-, hlayered⟩ | ⟨f, hf, error, hblames, -⟩ :=
    Settings.layered_cases { root := l.root, home := l.home } l.file
  · rw [hlayered, Settings.withEnvironment_of_usable _ l.fresh he,
      Settings.overridden_overlaid_eq_settled]
  · exact absurd (hfile f hf) hblames.not_isUsable

theorem GivesInFile.result_of_read {d : Duration} (h : l.GivesInFile limit text)
    (hread : Duration.read? text = some d) : ∃ s, l.result = .ok s ∧ limit.inForce s = d := by
  obtain ⟨f, hf, hgiven, hbesides⟩ := h.file
  have hlimit : ∀ other ∈ limit.given? f, (Duration.read? other).isSome := by
    intro other hother
    rw [hgiven, Option.mem_some_iff] at hother
    rw [← hother, hread]
    rfl
  have hfile : ∀ f' ∈ l.file, f'.IsUsable := by
    intro f' hf'
    rw [hf, Option.mem_some_iff] at hf'
    exact hf' ▸ hbesides.isUsable hlimit
  refine ⟨_, result_of_usable hfile h.others, ?_⟩
  rw [Limit.inForce_settled, h.unset, hf, Option.bind_some, hgiven, Option.bind_some, hread]
  rfl

theorem GivesInFile.result_of_unreadable (h : l.GivesInFile limit text)
    (hread : Duration.read? text = none) :
    l.result = .error (.invalidDuration limit.key text) := by
  obtain ⟨f, hf, hgiven, hbesides⟩ := h.file
  rw [result_eq]
  obtain ⟨husable, -⟩ | ⟨f', hf', error, hblames, herror⟩ :=
    Settings.layered_cases { root := l.root, home := l.home } l.file
  · have hsome := (husable f hf).reads limit text hgiven
    rw [hread] at hsome
    cases hsome
  · rw [hf, Option.mem_some_iff] at hf'
    have hlimit : error = .invalidDuration limit.key text :=
      hbesides.blames hgiven (hf' ▸ hblames)
    rw [herror, hlimit]

theorem GivesByVariable.result_of_read {d : Duration} (h : l.GivesByVariable limit text)
    (htext : ∃ c ∈ text.toList, isBlank c = false) (hread : Duration.read? text = some d) :
    ∃ s, l.result = .ok s ∧ limit.inForce s = d := by
  have hvalue := Environment.value?_of_not_blank h.given htext
  have haccepted : l.environment.rejects limit.checkedVariable = false := by
    rw [Environment.rejects_checkedVariable hvalue, hread]
    rfl
  refine ⟨_, result_of_usable h.file (h.others.isUsable haccepted), ?_⟩
  rw [Limit.inForce_settled, hvalue, Option.bind_some, hread, Option.getD_some]

theorem GivesByVariable.result_of_unreadable (h : l.GivesByVariable limit text)
    (htext : ∃ c ∈ text.toList, isBlank c = false) (hread : Duration.read? text = none) :
    l.result = .error (.environment
      [.invalidDuration (l.environment.lead ++ limit.checkedVariable.name) text]) := by
  have hvalue := Environment.value?_of_not_blank h.given htext
  rw [result_eq]
  obtain ⟨-, hlayered⟩ | ⟨f, hf, error, hblames, -⟩ :=
    Settings.layered_cases { root := l.root, home := l.home } l.file
  · rw [hlayered, Settings.withEnvironment_eq,
      Environment.checked_of_unreadable h.others hvalue hread, Environment.note, l.fresh]
    rfl
  · exact absurd (h.file f hf) hblames.not_isUsable

/-- The limit is that of the file or the one built in. -/
theorem GivesByVariable.result_of_blank (h : l.GivesByVariable limit text)
    (htext : ∀ c ∈ text.toList, isBlank c = true) :
    ∃ s, l.result = .ok s ∧ limit.inForce s =
      ((l.file.bind limit.given?).bind Duration.read?).getD
        (limit.inForce { root := l.root, home := l.home }) := by
  have hvalue := Environment.value?_of_blank h.given htext
  have haccepted : l.environment.rejects limit.checkedVariable = false := by
    rw [Environment.rejects, hvalue, Option.any_none]
  refine ⟨_, result_of_usable h.file (h.others.isUsable haccepted), ?_⟩
  rw [Limit.inForce_settled, hvalue, Option.bind_none, Option.getD_none]

end Loading

/-- A file that gives a limit and nothing else. -/
def Limit.alone (text : String) : Limit → FileSettings
  | stage => { stageTimeout := some text }
  | bench => { benchTimeout := some text }

theorem Limit.isBareKey_key (limit : Limit) : Toml.IsBareKey limit.key := by
  cases limit <;> exact ⟨by decide +kernel, List.all_eq_true.mp (by decide +kernel)⟩

theorem Limit.read_assignment (limit : Limit) (text : String) :
    FileSettings.read (Toml.assignment limit.key text) = .ok (limit.alone text) := by
  rw [FileSettings.read, Toml.read?_assignment limit.isBareKey_key]
  cases limit <;> rfl

/-- A file of settings, alone in the root. -/
def holding (contents : String) : FileSystem :=
  ⟨.directory (.cons Settings.fileName (.file (Utf8.encode contents.toList) false) .nil), [],
    by decide, fun _ h => (List.not_mem_nil h).elim, trivial, trivial⟩

/-- Where the settings are looked for if the root is that of the file system. -/
def standardPath : Path := ⟨"/stagebench.toml"⟩

theorem locate_holding (contents : String) :
    (holding contents).locate standardPath =
      .ok [(Settings.fileName, .file (Utf8.encode contents.toList) false)] := by
  have hcheck : FileSystem.checkPath standardPath = .ok () := rfl
  have hnames : FileSystem.namesOf standardPath = [Settings.fileName] := by decide +kernel
  rw [FileSystem.locate, hcheck, hnames]
  rfl

theorem readText_holding (contents : String) :
    (holding contents).readText standardPath = .ok contents := by
  have hbytes : (holding contents).read standardPath = .ok (Utf8.encode contents.toList) := by
    rw [FileSystem.read, locate_holding]
    rfl
  have htext : Utf8.text? (Utf8.encode contents.toList) = some contents :=
    Utf8.text?_eq_some_iff.mpr (Utf8.toByteArray_encode contents).symm
  rw [FileSystem.readText, hbytes]
  simp only [bind, Except.bind, htext]
  rfl

theorem configFile?_holding (contents : String) :
    Settings.configFile? (holding contents) { root := ⟨"/"⟩ } none = some standardPath := by
  have hpath : Path.join ⟨"/"⟩ ⟨Settings.fileName⟩ = standardPath := by decide +kernel
  have hfile : (holding contents).isFile standardPath = true := by
    rw [FileSystem.isFile, FileSystem.node?, locate_holding]
    rfl
  simp only [Settings.configFile?, hpath, hfile, if_true]

theorem finds_holding (limit : Limit) (text : String) :
    Settings.Finds { root := ⟨"/"⟩ } (holding (Toml.assignment limit.key text)) none
      (some (limit.alone text)) := by
  have hread : Settings.readFile (holding (Toml.assignment limit.key text)) standardPath =
      .ok (limit.alone text) := by
    rw [Settings.readFile, readText_holding]
    simp only [Except.mapError, bind, Except.bind, limit.read_assignment]
  rw [Settings.Finds]
  simp only [configFile?_holding]
  exact ⟨limit.alone text, hread, rfl⟩

theorem Limit.isUsableBesides_alone (limit : Limit) (text : String) :
    (limit.alone text).IsUsableBesides limit where
  others other hother := by
    have hnone : other.given? (limit.alone text) = none := by
      cases limit <;> cases other <;> simp_all [Limit.alone, Limit.given?]
    rw [hnone]
    exact fun _ h => (Option.not_mem_none _ h).elim
  repetitions := by cases limit <;> exact fun _ h => (Option.not_mem_none _ h).elim

/-- Every text can be given in a file. -/
theorem exists_givesInFile (limit : Limit) (text : String) :
    ∃ l : Loading, l.GivesInFile limit text :=
  ⟨⟨_, _, none, none, { values := fun _ => none }, _, finds_holding limit text, rfl⟩,
    { file := ⟨limit.alone text, rfl, by cases limit <;> rfl, limit.isUsableBesides_alone text⟩
      unset := rfl
      others := fun _ _ h => (Option.not_mem_none _ h).elim }⟩

theorem CheckedVariable.name_inj {x y : CheckedVariable} : x.name = y.name ↔ x = y := by
  cases x <;> cases y <;> simp [CheckedVariable.name]

/-- Every text can be given by a variable. -/
theorem exists_givesByVariable (limit : Limit) (text : String) :
    ∃ l : Loading, l.GivesByVariable limit text := by
  let name := variableLead ++ limit.checkedVariable.name
  let e : Environment := { values := fun other => if other = name then some text else none }
  have hfound : Settings.Finds { root := ⟨"/"⟩ } ⟨.directory .nil, [], trivial⟩ none none := by
    rw [Settings.Finds]
    rfl
  have hothers : e.IsUsableBesides limit := by
    intro x hx
    have hname : variableLead ++ x.name ≠ name := fun hsame =>
      hx (CheckedVariable.name_inj.mp ((String.append_right_inj _).mp hsame))
    have hnone : e.value? x.name = none := by
      rw [Environment.value?]
      simp only [e, if_neg hname]
      rfl
    rw [Environment.rejects, hnone, Option.any_none]
  exact ⟨⟨_, _, none, none, e, none, hfound, rfl⟩,
    { given := if_pos rfl
      others := hothers
      file := fun _ h => (Option.not_mem_none _ h).elim }⟩

/-- A text is given for a limit in the file of one loading and by a variable of another. If the text
is a number without a unit, blanks around it or not, it stands for so many seconds if these fit in a
word, and for nothing otherwise. If it is not blank, both loadings take it for the same duration, or
both reject it and say so. If it is blank, the file is rejected, and the variable counts as not set,
so that the limit is that of the file or the one built in. -/
theorem Limit.given_either_way (limit : Limit) (text : String) :
    (∀ front digits back, text.toList = front ++ (digits ++ back) →
      (∀ c ∈ front, isBlank c = true) → (∀ c ∈ back, isBlank c = true) →
      digits ≠ [] → (∀ c ∈ digits, isDigit c = true) →
      Duration.read? text = if Nat.ofDigitChars 10 digits 0 < 2 ^ 64
        then some (.ofSeconds (Nat.ofDigitChars 10 digits 0)) else none) ∧
    (∃ l : Loading, l.GivesInFile limit text) ∧ (∃ l : Loading, l.GivesByVariable limit text) ∧
    ∀ l l' : Loading, l.GivesInFile limit text → l'.GivesByVariable limit text →
      ((∃ c ∈ text.toList, isBlank c = false) →
        (∃ s s', l.result = .ok s ∧ l'.result = .ok s' ∧
          limit.inForce s = limit.inForce s' ∧ Duration.read? text = some (limit.inForce s)) ∨
        l.result = .error (.invalidDuration limit.key text) ∧
          l'.result = .error (.environment
            [.invalidDuration (l'.environment.lead ++ limit.checkedVariable.name) text]) ∧
          Duration.read? text = none) ∧
      ((∀ c ∈ text.toList, isBlank c = true) →
        l.result = .error (.invalidDuration limit.key text) ∧
          ∃ s', l'.result = .ok s' ∧ limit.inForce s' =
            ((l'.file.bind limit.given?).bind Duration.read?).getD
              (limit.inForce { root := l'.root, home := l'.home })) := by
  refine ⟨fun front digits back htext hfront hback hne hdigits => ?_, exists_givesInFile limit text,
    exists_givesByVariable limit text, fun l l' hfile hvariable => ⟨fun htext => ?_, fun htext => ?_⟩⟩
  · have hword : Nat.ofDigitChars 10 digits 0 ≤ maxWord ↔ Nat.ofDigitChars 10 digits 0 < 2 ^ 64 :=
      Nat.lt_succ_iff.symm
    rw [Duration.read?_of_digits htext hfront hback hne hdigits]
    simp only [hword]
  · cases hread : Duration.read? text with
    | some d =>
      obtain ⟨s, hs, hd⟩ := hfile.result_of_read hread
      obtain ⟨s', hs', hd'⟩ := hvariable.result_of_read htext hread
      exact .inl ⟨s, s', hs, hs', hd.trans hd'.symm, congrArg some hd.symm⟩
    | none =>
      exact .inr ⟨hfile.result_of_unreadable hread, hvariable.result_of_unreadable htext hread, rfl⟩
  · exact ⟨hfile.result_of_unreadable (Duration.read?_of_blank htext),
      hvariable.result_of_blank htext⟩

/-- The greatest number of seconds, with a zero in front and blanks around it, and a blank text. -/
theorem Limit.given_either_way_greatest :
    let text := "\u3000018446744073709551615\n"
    let greatest := Duration.ofSeconds 18446744073709551615
    (∃ l l' : Loading, l.GivesInFile .stage text ∧ l'.GivesByVariable .stage text ∧
      ∃ s s', l.result = .ok s ∧ l'.result = .ok s' ∧
        s.stageTimeout = greatest ∧ s'.stageTimeout = greatest) ∧
    ∃ l l' : Loading, l.GivesInFile .bench "\t" ∧ l'.GivesByVariable .bench "\t" ∧
      l.result = .error (.invalidDuration "bench_timeout" "\t") ∧ ∃ s', l'.result = .ok s' := by
  intro text greatest
  constructor
  · obtain ⟨hnumber, ⟨l, hfile⟩, ⟨l', hvariable⟩, hloaded⟩ := given_either_way .stage text
    have hread : Duration.read? text = some greatest :=
      hnumber ['\u3000'] "018446744073709551615".toList ['\n'] (by decide +kernel)
        (List.forall_mem_singleton.mpr (by decide)) (List.forall_mem_singleton.mpr (by decide))
        (by decide +kernel) (List.all_eq_true.mp (by decide +kernel))
    have htext : ∃ c ∈ text.toList, isBlank c = false := ⟨'0', by decide +kernel, by decide⟩
    obtain ⟨s, s', hs, hs', hsame, hlimit⟩ | ⟨-, -, hnone⟩ := (hloaded l l' hfile hvariable).1 htext
    · rw [hread, Option.some.injEq] at hlimit
      exact ⟨l, l', hfile, hvariable, s, s', hs, hs', hlimit.symm, (hlimit.trans hsame).symm⟩
    · rw [hread] at hnone
      cases hnone
  · obtain ⟨-, ⟨l, hfile⟩, ⟨l', hvariable⟩, hloaded⟩ := given_either_way .bench "\t"
    have htext : ∀ c ∈ "\t".toList, isBlank c = true := List.all_eq_true.mp (by decide +kernel)
    obtain ⟨hrejected, s', hs', -⟩ := (hloaded l l' hfile hvariable).2 htext
    exact ⟨l, l', hfile, hvariable, hrejected, s', hs'⟩

end EngineTrials.Config
