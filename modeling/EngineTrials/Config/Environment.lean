import EngineTrials.Duration.Reading
import EngineTrials.Path

/-!
# Settings from the environment

Variables share a leading part of their names. A blank variable counts as not set. Values that
cannot be used are collected, so that all of them can be reported at once.
-/
namespace EngineTrials.Config
open Text

/-- What is wrong with the value of a variable, given by its full name. -/
inductive VariableProblem
  | invalidValue (name expected value : String)
  | invalidDuration (name value : String)
  | outOfRange (name : String) (value least greatest : Nat)
deriving DecidableEq, Inhabited

namespace VariableProblem

def message : VariableProblem → String
  | invalidValue name expected value =>
    "Invalid value for " ++ name ++ ": expected " ++ expected ++ ", got '" ++ value ++ "'"
  | invalidDuration name value => "Invalid duration for " ++ name ++ ": " ++ value
  | outOfRange name value least greatest =>
    "Value out of range for " ++ name ++ ": " ++ count value ++ " (valid: " ++ count least ++
      "..=" ++ count greatest ++ ")"

end VariableProblem

/-- Where the values of variables come from. -/
abbrev Variables := String → Option String

/-- The leading part of the names of all variables. -/
def variableLead : String := "STAGEBENCH_"

structure Environment where
  lead : String := variableLead
  values : Variables
  /-- The problems found so far, in order. -/
  problems : List VariableProblem := []

namespace Environment

/-- The full name of a variable and its value, unless that is blank. -/
def raw? (e : Environment) (name : String) : Option (String × String) :=
  let full := e.lead ++ name
  match e.values full with
  | none => none
  | some value => if isAllBlank value then none else some (full, value)

def path? (e : Environment) (name : String) : Option Path :=
  (e.raw? name).map fun (_, value) => ⟨value⟩

def note (e : Environment) (p : VariableProblem) : Environment :=
  { e with problems := e.problems ++ [p] }

def duration (e : Environment) (name : String) : Option Duration × Environment :=
  match e.raw? name with
  | none => (none, e)
  | some (full, value) =>
    match Duration.read? value with
    | some d => (some d, e)
    | none => (none, e.note (.invalidDuration full value))

/-- A 64-bit number between bounds. Blanks around it do not count. -/
def number (e : Environment) (name : String) (least greatest : Nat) : Option Nat × Environment :=
  match e.raw? name with
  | none => (none, e)
  | some (full, value) =>
    match word? (trim value) with
    | none => (none, e.note (.invalidValue full "unsigned integer" value))
    | some n =>
      if least ≤ n ∧ n ≤ greatest then (some n, e)
      else (none, e.note (.outOfRange full n least greatest))

/-- Hands over the problems and forgets them. -/
def takeProblems (e : Environment) : List VariableProblem × Environment :=
  (e.problems, { e with problems := [] })

end Environment

end EngineTrials.Config
