import EngineTrials.Benchmark.File
import EngineTrials.CaseFile.Malformed
import EngineTrials.CaseFile.Reading

/-!
# Benchmark files

A mapping with the keys `suite`, `benchmark`, `description`, `pattern` and `cases`, each once. The
cases are a mapping from names to queries.
-/
namespace EngineTrials.CaseFile
open Text Shape Yaml

namespace Benchmark

def fieldNames : List String := ["suite", "benchmark", "description", "pattern", "cases"]

/-- Takes in one case. Names are compared as texts. -/
def addCase (d : Document) (cases : List BenchmarkCase) (key value : Node) :
    Result (List BenchmarkCase) := do
  let name ← text d key
  let query ← Result.within (keyName key) (text d value)
  if cases.any (·.name = name) then .error (.here (.duplicateKey (Quoted.quote name)))
  else return cases ++ [⟨name, query⟩]

def cases (d : Document) (n : Node) : Result (List BenchmarkCase) := do
  foldEntries (addCase d) [] (← entries "a mapping" d n)

/-- The fields of a file as far as they have been met. -/
structure Fields where
  suite : Option String := none
  benchmark : Option String := none
  description : Option String := none
  pattern : Option String := none
  cases : Option (List BenchmarkCase) := none

def addField (d : Document) (f : Fields) (key value : Node) : Result Fields := do
  let name ← field fieldNames d key
  let here {α : Type} (r : Result α) : Result α := Result.within (keyName key) r
  match name with
  | "suite" => return { f with suite := ← fill name f.suite (here (text d value)) }
  | "benchmark" => return { f with benchmark := ← fill name f.benchmark (here (text d value)) }
  | "description" =>
    return { f with description := ← fill name f.description (here (text d value)) }
  | "pattern" => return { f with pattern := ← fill name f.pattern (here (text d value)) }
  | _ => return { f with cases := ← fill name f.cases (here (cases d value)) }

/-- What a document says, with the pattern as it is written. -/
structure Description where
  suite : String
  benchmark : String
  description : String
  pattern : String
  cases : List BenchmarkCase

def describe (d : Document) (n : Node) : Result Description := do
  let f ← foldEntries (addField d) {} (← entries "struct RawBenchmarkFile" d n)
  return {
    suite := ← required "suite" f.suite
    benchmark := ← required "benchmark" f.benchmark
    description := ← required "description" f.description
    pattern := ← required "pattern" f.pattern
    cases := ← required "cases" f.cases }

inductive Refusal
  | problem (problem : Problem)
  | invalidPattern
  | noCases

namespace Refusal

def message : Refusal → String
  | problem p => p.message
  | invalidPattern => "invalid pattern"
  | noCases => "no cases declared"

end Refusal

/-- The pattern has to be a regular expression, and there has to be a case. -/
def accept (path : Path) (s : Description) : Except Refusal BenchmarkFile :=
  match Regex.compile? s.pattern with
  | none => .error .invalidPattern
  | some pattern =>
    if s.cases.isEmpty then .error .noCases
    else .ok {
      path
      name := BenchmarkFile.nameOf path
      suite := s.suite
      benchmark := s.benchmark
      description := s.description
      pattern
      cases := s.cases }

/-- Reads the contents of a benchmark file. -/
def parse (path : Path) (contents : String) : Except MalformedInput BenchmarkFile :=
  match (fromText describe contents).mapError Refusal.problem with
  | .error r => .error ⟨path, r.message⟩
  | .ok s => (accept path s).mapError fun r => ⟨path, r.message⟩

end Benchmark

end EngineTrials.CaseFile
