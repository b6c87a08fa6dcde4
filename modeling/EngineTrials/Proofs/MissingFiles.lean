import EngineTrials.Proofs.SettingLayers
import EngineTrials.Proofs.TrialRun
import Mathlib.Data.List.Basic

/-!
# Files that are looked for in advance

Settings are looked through for missing files before anything is run, by names that are put
together anew. They are those that the command lines name: the program of a stage is the same for
every database, and each name of a database leads to one setup file, for the setups stand in
ascending order.
-/
namespace EngineTrials

namespace Config.Settings

/-- The databases that there are setups for. -/
def databases (s : Settings) : List String := s.setups.databases

/-- The setup file in the command line of a stage, behind the fixed arguments. -/
def setupArgument? (stage : Stage) (line : Command) : Option String :=
  if stage.needsSetup then line.arguments[stage.fixedArguments.length]? else none

/-- The files that are named when commands are built: the program of each stage, whatever the
database, the setup file for each database, whatever the stage, and the program for benchmarks. -/
structure Launches (s : Settings) (program : Stage → Path) (setup : String → Path)
    (benchmark : Path) : Prop where
  line : ∀ stage, ∀ db ∈ s.databases, ∃ line, s.trials.commands.command stage db = .ok line ∧
    line.program = program stage ∧
    setupArgument? stage line = if stage.needsSetup then some (setup db).text else none
  benchmark : ∀ schema, (s.benchmarks.commandFor schema).program = benchmark

/-- A file that a command line has as its program or as its setup file. -/
inductive IsNamed (s : Settings) : Path → Prop
  | program {stage : Stage} {db : String} {line : Command}
      (h : s.trials.commands.command stage db = .ok line) : s.IsNamed line.program
  | setup {stage : Stage} {db : String} {line : Command} {path : Path}
      (h : s.trials.commands.command stage db = .ok line)
      (harg : setupArgument? stage line = some path.text) : s.IsNamed path
  | benchmark (schema : Path) : s.IsNamed (s.benchmarks.commandFor schema).program

theorem setupArgument?_of_isLine {c : StageCommands} {stage : Stage} {db : String} {line : Command}
    (h : c.IsLine stage db line) : setupArgument? stage line =
      if stage.needsSetup then (c.setups.find? db).map Path.text else none := by
  obtain ⟨setup, harguments, hsetup⟩ := h.arguments
  rw [setupArgument?]
  split at hsetup
  case isTrue hneeds =>
    obtain ⟨path, hfind, rfl⟩ := hsetup
    rw [if_pos hneeds, if_pos hneeds, hfind, harguments]
    simp
  case isFalse hneeds => rw [if_neg hneeds, if_neg hneeds]

section
variable {s : Settings} {db : String} {path : Path}

theorem mem_databases_of_find? (h : s.resolvedSetups.find? db = some path) :
    db ∈ s.databases := by
  rw [databases, ← s.setups.databases_map s.resolve]
  exact Setups.mem_databases_of_find? h

theorem find?_resolvedSetups (hmem : (db, path) ∈ s.setups.entries) :
    s.resolvedSetups.find? db = some (s.resolve path) :=
  Setups.find?_of_mem (List.mem_map_of_mem hmem)

/-- The program of a stage. -/
def stageProgram (s : Settings) (stage : Stage) : Path :=
  (s.resolve s.binDir).join ⟨stage.entryPoint⟩

/-- The setup file of a database that there is one for. -/
def setupFile (s : Settings) (db : String) : Path :=
  (s.resolvedSetups.find? db).getD default

theorem setupFile_of_mem (hmem : (db, path) ∈ s.setups.entries) :
    s.setupFile db = s.resolve path := by
  rw [setupFile, find?_resolvedSetups hmem, Option.getD_some]

theorem launches : s.Launches s.stageProgram s.setupFile (s.resolve s.benchBinary) where
  line stage db hdb := by
    obtain ⟨⟨db, path⟩, hmem, rfl⟩ := List.mem_map.mp hdb
    have hfind := find?_resolvedSetups hmem
    have hset : s.stageCommands.hasSetup db := Option.isSome_iff_exists.mpr ⟨_, hfind⟩
    obtain ⟨line, hline⟩ := StageCommands.exists_command (.inr hset)
    have hbuilt := StageCommands.command_ok hline
    refine ⟨line, hline, hbuilt.program, ?_⟩
    rw [setupArgument?_of_isLine hbuilt, setupFile_of_mem hmem]
    show (if _ then (s.resolvedSetups.find? db).map Path.text else none) = _
    rw [hfind, Option.map_some]
  benchmark schema := rfl

/-- With a setup configured, these are all files that command lines name. -/
theorem isNamed_iff (hsome : s.databases ≠ []) :
    s.IsNamed path ↔ (∃ stage, path = s.stageProgram stage) ∨ path = s.resolve s.benchBinary ∨
      ∃ db ∈ s.databases, path = s.setupFile db := by
  constructor
  · intro hnamed
    cases hnamed with
    | program hline => exact .inl ⟨_, (StageCommands.command_ok hline).program⟩
    | setup hline harg =>
      rw [setupArgument?_of_isLine (StageCommands.command_ok hline)] at harg
      obtain ⟨-, harg⟩ := Option.ite_none_right_eq_some.mp harg
      obtain ⟨found, hfind, htext⟩ := Option.map_eq_some_iff.mp harg
      refine .inr (.inr ⟨_, mem_databases_of_find? hfind, ?_⟩)
      have hpath : found = path := congrArg Path.mk htext
      rw [setupFile, ← hpath]
      exact (congrArg (Option.getD · default) hfind).symm
    | benchmark schema => exact .inr (.inl rfl)
  · have hlaunches := launches (s := s)
    rintro (⟨stage, rfl⟩ | rfl | ⟨db, hdb, rfl⟩)
    · obtain ⟨db, hdb⟩ := List.exists_mem_of_ne_nil _ hsome
      obtain ⟨line, hline, hprogram, -⟩ := hlaunches.line stage db hdb
      exact hprogram ▸ .program hline
    · exact .benchmark default
    · obtain ⟨line, hline, -, harg⟩ := hlaunches.line .sema db hdb
      exact .setup hline harg

end

/-- The warning that names a file that is not there. -/
def notFound (key what : String) (path : Path) : Warning :=
  ⟨key, what ++ " not found at " ++ path.text⟩

theorem filterMap_missing? {α : Type} (fs : FileSystem) (key what : α → String) (path : α → Path)
    (as : List α) : (as.filterMap fun a => missing? fs (key a) (what a) (path a)) =
      (as.filter fun a => !fs.isFile (path a)).map fun a =>
        notFound (key a) (what a) (path a) := by
  induction as with
  | nil => rfl
  | cons a as ih =>
    rw [List.filterMap_cons, List.filter_cons, ih, missing?]
    cases fs.isFile (path a) <;> rfl

theorem validate_eq (fs : FileSystem) (s : Settings) :
    s.validate fs =
      (Stage.all.filter fun stage => !fs.isFile (s.stageProgram stage)).map (fun stage =>
        notFound "bin_dir" (stage.name ++ " binary") (s.stageProgram stage)) ++
      (if fs.isFile (s.resolve s.benchBinary) then [] else
        [notFound "bench_binary" "benchmark binary" (s.resolve s.benchBinary)]) ++
      (s.databases.filter fun db => !fs.isFile (s.setupFile db)).map fun db =>
        notFound ("setups." ++ db) "setup file" (s.setupFile db) := by
  have hstages := filterMap_missing? fs (fun _ => "bin_dir")
    (fun stage : Stage => stage.name ++ " binary") s.stageProgram Stage.all
  have hsetups : (s.resolvedSetups.entries.filterMap fun entry =>
        missing? fs ("setups." ++ entry.1) "setup file" entry.2) =
      (s.databases.filter fun db => !fs.isFile (s.setupFile db)).map fun db =>
        notFound ("setups." ++ db) "setup file" (s.setupFile db) := by
    have hfiles := filterMap_missing? fs (fun db => "setups." ++ db) (fun _ => "setup file")
      s.setupFile s.databases
    rw [← hfiles, resolvedSetups, Setups.map, databases, Setups.databases, List.filterMap_map,
      List.filterMap_map]
    refine List.filterMap_congr fun entry hentry => ?_
    rw [Function.comp_apply, Function.comp_apply, setupFile_of_mem hentry]
  have hbench : (missing? fs "bench_binary" "benchmark binary" (s.resolve s.benchBinary)).toList =
      if fs.isFile (s.resolve s.benchBinary) then [] else
        [notFound "bench_binary" "benchmark binary" (s.resolve s.benchBinary)] := by
    rw [missing?]
    split <;> rfl
  unfold validate
  exact congrArg₂ (· ++ ·) (congrArg₂ (· ++ ·) hstages hbench) hsetups

theorem validate_eq_nil_iff (fs : FileSystem) (s : Settings) :
    s.validate fs = [] ↔ (∀ stage, fs.isFile (s.stageProgram stage) = true) ∧
      fs.isFile (s.resolve s.benchBinary) = true ∧
      ∀ db ∈ s.databases, fs.isFile (s.setupFile db) = true := by
  rw [validate_eq, List.append_eq_nil_iff, List.append_eq_nil_iff, and_assoc]
  simp [Stage.mem_all]

/-- When setups are configured, settings are looked through for the very files that commands name.
There is one warning for each stage, in dependency order, whose program is not a regular file, one
for the program of benchmarks, and one for each database, in ascending order, whose setup file is
not a regular file. So there are none exactly when every program and every setup file of any
command is a regular file. -/
theorem validate_matches_commands (fs : FileSystem) {s : Settings} (hsome : s.databases ≠ []) :
    ∃ program setup benchmark, s.Launches program setup benchmark ∧
      s.validate fs =
        (Stage.all.filter fun stage => !fs.isFile (program stage)).map (fun stage =>
          notFound "bin_dir" (stage.name ++ " binary") (program stage)) ++
        (if fs.isFile benchmark then [] else
          [notFound "bench_binary" "benchmark binary" benchmark]) ++
        (s.databases.filter fun db => !fs.isFile (setup db)).map (fun db =>
          notFound ("setups." ++ db) "setup file" (setup db)) ∧
      (s.validate fs = [] ↔ ∀ path, s.IsNamed path → fs.isFile path = true) := by
  refine ⟨s.stageProgram, s.setupFile, s.resolve s.benchBinary, launches, validate_eq fs s, ?_⟩
  have hnamed {path : Path} : s.IsNamed path ↔ _ := isNamed_iff hsome
  rw [validate_eq_nil_iff]
  constructor
  · rintro ⟨hprograms, hbench, hfiles⟩ path hpath
    obtain ⟨stage, rfl⟩ | rfl | ⟨db, hdb, rfl⟩ := hnamed.mp hpath
    · exact hprograms stage
    · exact hbench
    · exact hfiles db hdb
  · intro hall
    exact ⟨fun stage => hall _ (hnamed.mpr (.inl ⟨stage, rfl⟩)),
      hall _ (hnamed.mpr (.inr (.inl rfl))),
      fun db hdb => hall _ (hnamed.mpr (.inr (.inr ⟨db, hdb, rfl⟩)))⟩

/-- Settings are loaded, with variables for the programs. These are there, and one of the two setup
files is. -/
theorem validate_matches_commands_one_missing :
    let program : FileNode := .file [] true
    let fs : FileSystem := ⟨.directory (.cons "lex" program (.cons "parse" program
      (.cons "check" program (.cons "shell" program
      (.cons "test" (.directory (.cons "ours.sql" (.file [] false) .nil)) .nil))))), [],
      by decide⟩
    let values : Variables := fun name =>
      if name = "STAGEBENCH_BIN_DIR" then some "/"
      else if name = "STAGEBENCH_BENCH_BINARY" then some "shell"
      else none
    let s : Settings := { root := ⟨"/"⟩, binDir := ⟨"/"⟩, benchBinary := ⟨"shell"⟩ }
    load fs ⟨"/"⟩ none none { values } = .ok s ∧
      s.validate fs = [⟨"setups.tpch", "setup file not found at /test/tpch.sql"⟩] ∧
      ¬ ∀ path, s.IsNamed path → fs.isFile path = true := by
  intro program fs values s
  have hload : load fs ⟨"/"⟩ none none { values } = .ok s := rfl
  have hwarned : s.validate fs = [⟨"setups.tpch", "setup file not found at /test/tpch.sql"⟩] := by
    decide +kernel
  have hsome : s.databases ≠ [] := List.cons_ne_nil _ _
  obtain ⟨-, -, -, -, -, hnil⟩ := validate_matches_commands fs hsome
  refine ⟨hload, hwarned, fun hall => ?_⟩
  rw [hnil.mpr hall] at hwarned
  cases hwarned

end Config.Settings

end EngineTrials
