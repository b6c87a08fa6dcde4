import EngineTrials.CaseFile.Malformed
import EngineTrials.CaseFile.Reading
import EngineTrials.Stage.Command
import EngineTrials.Trial.Case

/-!
# Test files

A test file describes one case: a mapping with the keys `description`, `db`, `query`, `required` and
`stages`, each once. The stages are a mapping from names of stages to the checks on them.
-/
namespace EngineTrials.CaseFile
open Text Shape Yaml

namespace TestFile

def checkNames : List String := ["returncode", "num_err", "err", "out"]

/-- Takes in one check. A key that is there with null stands for zero or the empty text. -/
def addCheck (d : Document) (e : Expectation) (key value : Node) : Result Expectation := do
  match ← field checkNames d key with
  | "returncode" =>
    let n ← fill "returncode" e.returnCode ((·.getD 0) <$> optional integer32 d key value)
    return { e with returnCode := n }
  | "num_err" =>
    let n ← fill "num_err" e.errorCount ((·.getD 0) <$> optional natural64 d key value)
    return { e with errorCount := n }
  | "err" =>
    let t ← fill "err" e.stderr ((·.getD "") <$> optional text d key value)
    return { e with stderr := t }
  | _ =>
    let t ← fill "out" e.stdout ((·.getD "") <$> optional text d key value)
    return { e with stdout := t }

def checks (d : Document) (n : Node) : Result Expectation := do
  foldEntries (addCheck d) {} (← entries "struct RawStage" d n)

def stageNamed (name : String) : Result Stage :=
  match Stage.ofName? name with
  | some s => .ok s
  | none => .error (.here (.unknownVariant name (Stage.all.map Stage.name)))

/-- The content below a tag that names a stage, which has to be null. -/
def nothingBelow : Node → Result Unit
  | .scalar _ style s =>
    if style = .plain ∧ (s = "" ∨ nullNames.contains s) then .ok ()
    else .error (.here (.wrongValue (.string s) "null"))
  | n => reject "unit" n

/-- What a message calls a tag that a collection lacks. -/
def tagWanted : String := "a YAML tag starting with '!'"

/-- The stage a key names, by its text or by a tag of its own. -/
def stageOf (d : Document) (key : Node) : Result Stage := do
  let n := d.view key
  match n with
  | .scalar p _ s =>
    match p.tag.bind ownTag? with
    | some name => do
      let stage ← stageNamed name
      nothingBelow n
      return stage
    | none => stageNamed s
  | .sequence p _ | .mapping p _ =>
    match p.tag.bind ownTag? with
    | some name => do
      let stage ← stageNamed name
      nothingBelow n
      return stage
    | none => reject tagWanted n
  | n => reject tagWanted n

/-- Takes in one stage. A stage is declared once; given as null it has no checks. -/
def addStage (d : Document) (stages : List StageSpec) (key value : Node) :
    Result (List StageSpec) := do
  let stage ← stageOf d key
  let expectation := (← optional checks d key value).getD {}
  if stages.any (·.stage = stage) then .error (.here (.duplicateKey stage.title))
  else return stages ++ [⟨stage, expectation⟩]

def stages (d : Document) (n : Node) : Result (List StageSpec) := do
  foldEntries (addStage d) [] (← entries "a mapping" d n)

def fieldNames : List String := ["description", "db", "query", "required", "stages"]

/-- The fields of a file as far as they have been met. -/
structure Fields where
  description : Option String := none
  database : Option String := none
  query : Option String := none
  required : Option Bool := none
  stages : Option (List StageSpec) := none

def addField (d : Document) (f : Fields) (key value : Node) : Result Fields := do
  let name ← field fieldNames d key
  let here {α : Type} (r : Result α) : Result α := Result.within (keyName key) r
  match name with
  | "description" =>
    return { f with description := ← fill name f.description (here (text d value)) }
  | "db" => return { f with database := ← fill name f.database (here (text d value)) }
  | "query" => return { f with query := ← fill name f.query (here (text d value)) }
  | "required" => return { f with required := ← fill name f.required (here (boolean d value)) }
  | _ => return { f with stages := ← fill name f.stages (here (stages d value)) }

/-- The case that a document describes. -/
def case (path : Path) (d : Document) (n : Node) : Result TestCase := do
  let f ← foldEntries (addField d) {} (← entries "struct RawTestCase" d n)
  return {
    path
    description := ← required "description" f.description
    database := ← required "db" f.database
    query := ← required "query" f.query
    required := ← required "required" f.required
    stages := ← required "stages" f.stages }

inductive Refusal
  | problem (problem : Problem)
  | noStages
  | unknownDatabase (name : String)

namespace Refusal

def message : Refusal → String
  | problem p => p.message
  | noStages => "no stages declared"
  | unknownDatabase name => "unknown db '" ++ name ++ "'"

end Refusal

/-- A case has stages, and a setup for its database if one of them needs it. -/
def accept (commands : StageCommands) (c : TestCase) : Except Refusal TestCase :=
  if c.stages.isEmpty then .error .noStages
  else if c.stages.any (·.stage.needsSetup) && !commands.hasSetup c.database then
    .error (.unknownDatabase c.database)
  else .ok c

/-- Reads the contents of a test file. -/
def parse (path : Path) (contents : String) (commands : StageCommands) :
    Except MalformedInput TestCase :=
  match (fromText (case path) contents).mapError Refusal.problem with
  | .error r => .error ⟨path, r.message⟩
  | .ok c => (accept commands c).mapError fun r => ⟨path, r.message⟩

end TestFile

end EngineTrials.CaseFile
