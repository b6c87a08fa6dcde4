/-!
# Stages

The four phases an engine is checked in, in dependency order. Each drives one entry point of the
engine; from semantic analysis on a database setup has to be loaded.
-/
namespace EngineTrials

inductive Stage
  | lexer
  | parser
  | sema
  | end2end
deriving DecidableEq, Inhabited

namespace Stage

/-- In dependency order. -/
def all : List Stage := [lexer, parser, sema, end2end]

def name : Stage → String
  | lexer => "lexer"
  | parser => "parser"
  | sema => "sema"
  | end2end => "end2end"

/-- The executable of the engine that the stage drives. -/
def entryPoint : Stage → String
  | lexer => "lex"
  | parser => "parse"
  | sema => "check"
  | end2end => "shell"

def needsSetup : Stage → Bool
  | lexer | parser => false
  | sema | end2end => true

theorem needsSetup_iff {stage : Stage} :
    stage.needsSetup = true ↔ stage = .sema ∨ stage = .end2end := by
  cases stage <;> decide

/-- Arguments that come first on the command line. -/
def fixedArguments : Stage → List String
  | lexer | parser => []
  | sema => ["--quiet"]
  | end2end => ["--quiet", "--noprompt"]

/-- The place in dependency order. -/
def order : Stage → Nat
  | lexer => 0
  | parser => 1
  | sema => 2
  | end2end => 3

/-- How a message about a repeated stage names it. -/
def title : Stage → String
  | lexer => "Lexer"
  | parser => "Parser"
  | sema => "Sema"
  | end2end => "End2End"

/-- Names are exact: no other case, no blanks around. -/
def ofName? (s : String) : Option Stage :=
  all.find? fun stage => stage.name == s

def unknownMessage (s : String) : String :=
  "unknown stage '" ++ s ++ "'"

theorem ofName?_name (s : Stage) : ofName? s.name = some s := by
  cases s <;> decide

theorem mem_all (s : Stage) : s ∈ all := by
  cases s <;> decide

end Stage

end EngineTrials
