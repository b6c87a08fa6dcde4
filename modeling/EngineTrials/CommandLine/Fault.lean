import EngineTrials.Config.Settings
import EngineTrials.Logging.Settings
import EngineTrials.Text.Pieces

/-!
# Faults

Why a run ended before it had a verdict: what could not be done, and the reasons behind it from the
nearest to the last.
-/
namespace EngineTrials.CommandLine
open Text

structure Fault where
  message : String
  causes : List String := []
deriving DecidableEq, Inhabited

namespace Fault

/-- Puts a lead before the first line of a text and indents the others. -/
def indented (lead rest text : String) : String :=
  lead ++ join ("\n" ++ rest) ((lines text.toList).map String.ofList)

/-- Right-aligned in five columns. -/
def numberLead (n : Nat) : String :=
  let digits := count n
  String.ofList (List.replicate (5 - digits.length) ' ') ++ digits ++ ": "

/-- The lines of the causes; several are numbered from zero. -/
def causeLines : List String → List String
  | [] => []
  | [cause] => [indented "    " "    " cause]
  | causes => (causes.zipIdx).map fun (cause, i) => indented (numberLead i) "       " cause

def text (f : Fault) : String :=
  let causes :=
    if f.causes.isEmpty then ""
    else "\n\nCaused by:\n" ++ join "\n" (causeLines f.causes)
  "Error: " ++ f.message ++ causes ++ "\n"

def ofSetup (e : Logging.SetupError) : Fault := ⟨e.message, e.causes⟩

/-- Reading a file fails because of what the system says about it. -/
def ofSettings (e : Config.SettingsError) : Fault :=
  let behind := match e with
    | .unreadable _ cause => [cause.message]
    | _ => []
  ⟨"Failed to load configuration", e.message :: behind⟩

end Fault

end EngineTrials.CommandLine
