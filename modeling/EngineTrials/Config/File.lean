import EngineTrials.Number.Word
import EngineTrials.Shape.Mismatch
import EngineTrials.Stage.Command
import EngineTrials.Toml.Document

/-!
# The configuration file

Every key is optional and no other key is allowed. The file is well formed as a whole or else not
looked at; then its keys are read in the order they are written, and the first that does not fit is
the problem.
-/
namespace EngineTrials.Config
open Text Shape Toml

/-- What a configuration file says. -/
structure FileSettings where
  binDir : Option Path := none
  benchBinary : Option Path := none
  testRoot : Option Path := none
  benchRoot : Option Path := none
  fileGlob : Option String := none
  stageTimeout : Option String := none
  benchTimeout : Option String := none
  repetitions : Option Nat := none
  csvPath : Option Path := none
  extraArguments : Option (List String) := none
  setups : Option Setups := none
deriving DecidableEq, Inhabited

inductive FileProblem
  | illFormed
  | mismatch (mismatch : Mismatch)

namespace FileProblem

def message : FileProblem → String
  | illFormed => "syntax"
  | mismatch m => m.message

end FileProblem

namespace FileSettings

abbrev Result (α : Type) := Except FileProblem α

/-- What a message calls a value. A number that needs more than 128 bits, or is beyond the range of
floats, has no name. -/
def found? : Value → Option Found
  | .string s => some (.string s)
  | .integer n =>
    if fitsSigned 64 n || fitsUnsigned 64 n then some (.integer n)
    else if fitsSigned 128 n then some (.wide true n)
    else if fitsUnsigned 128 n then some (.wide false n)
    else none
  | .float x => some (.float x)
  | .overflow => none
  | .boolean b => some (.boolean b)
  | .moment _ | .table _ _ => some .map
  | .array _ | .tables _ => some .sequence

def reject {α : Type} (wanted : String) (v : Value) : Result α :=
  match found? v with
  | some found => .error (.mismatch (.wrongType found wanted))
  | none => .error .illFormed

def textAs (wanted : String) : Value → Result String
  | .string s => .ok s
  | v => reject wanted v

def text (v : Value) : Result String := textAs "a string" v

def path (v : Value) : Result Path := Path.mk <$> textAs "path string" v

/-- An unsigned integer of 64 bits. -/
def natural64 : Value → Result Nat
  | .integer n =>
    if fitsUnsigned 64 n then .ok n.toNat
    else if fitsSigned 64 n then .error (.mismatch (.wrongValue (.integer n) "usize"))
    else reject "usize" (.integer n)
  | v => reject "usize" v

def texts : Value → Result (List String)
  | .array items | .tables items => items.mapM text
  | v => reject "a sequence" v

/-- The key under which a moment stands when a table is wanted. -/
def momentKey : String := "$__toml_private_datetime"

def setupsOf : Value → Result Setups
  | .table _ entries => do
    return .ofList (← entries.mapM fun (db, v) => return (db, ← path v))
  | .moment t => .ok (.ofList [(momentKey, ⟨t⟩)])
  | v => reject "a map" v

def keys : List String :=
  ["bin_dir", "bench_binary", "test_root", "bench_root", "file_glob", "stage_timeout",
    "bench_timeout", "repetitions", "csv_path", "extra_args", "setups"]

/-- Takes in one key. -/
def add (s : FileSettings) (key : String) (v : Value) : Result FileSettings :=
  match key with
  | "bin_dir" => return { s with binDir := ← path v }
  | "bench_binary" => return { s with benchBinary := ← path v }
  | "test_root" => return { s with testRoot := ← path v }
  | "bench_root" => return { s with benchRoot := ← path v }
  | "file_glob" => return { s with fileGlob := ← text v }
  | "stage_timeout" => return { s with stageTimeout := ← text v }
  | "bench_timeout" => return { s with benchTimeout := ← text v }
  | "repetitions" => return { s with repetitions := ← natural64 v }
  | "csv_path" => return { s with csvPath := ← path v }
  | "extra_args" => return { s with extraArguments := ← texts v }
  | "setups" => return { s with setups := ← setupsOf v }
  | key => .error (.mismatch (.unknownField key keys))

def ofTable (t : Table) : Result FileSettings :=
  t.entries.foldlM (fun s (key, v) => s.add key v) {}

/-- Reads the contents of a configuration file. -/
def read (contents : String) : Result FileSettings :=
  match Toml.read? contents with
  | some t => ofTable t
  | none => .error .illFormed

end FileSettings

end EngineTrials.Config
