import EngineTrials.Engine.Command
import EngineTrials.Stage.Failure
import EngineTrials.Stage.Setups

/-!
# Stage commands

The command line of a stage: `<directory>/<entry point> [fixed arguments] [setup] [extra arguments]
-`, with the setup file of the database a case names.
-/
namespace EngineTrials

structure StageCommands where
  binDir : Path
  setups : Setups
  extraArguments : List String := []
deriving DecidableEq, Inhabited

namespace StageCommands

def hasSetup (c : StageCommands) (db : String) : Bool :=
  (c.setups.find? db).isSome

def missingSetupMessage (db : String) : String :=
  "no setup configured for db '" ++ db ++ "'"

/-- Only a stage that needs a setup can lack one. -/
def command (c : StageCommands) (stage : Stage) (db : String) : Except StageFailure Command :=
  let line (setup : List String) : Command :=
    ⟨c.binDir.join ⟨stage.entryPoint⟩,
      stage.fixedArguments ++ setup ++ c.extraArguments ++ ["-"]⟩
  if stage.needsSetup then
    match c.setups.find? db with
    | some setup => .ok (line [setup.text])
    | none => .error (.process (missingSetupMessage db))
  else .ok (line [])

end StageCommands

end EngineTrials
