import EngineTrials.Report.Style
import EngineTrials.Text.Digits
import EngineTrials.Text.Pieces
import EngineTrials.Trial.Counters

/-!
# Summary of a run

The totals that close a test run, as lines for a reader and as JSON. The verdict looks at the
required outcomes only, unless all are asked for; files that could not be loaded do not count.
-/
namespace EngineTrials

structure Summary (ν : Type := Nat) where
  /-- The stages that were seen, in dependency order. -/
  stages : List (Stage × Tally ν)
  required : Tally ν
  total : Tally ν
  badFiles : ν
deriving DecidableEq, Inhabited

namespace Summary
open Text

section Counts

variable {ν μ : Type}

def ofCounters [Add ν] [OfNat ν 0] (c : Counters ν) : Summary ν :=
  ⟨c.stages, c.required, c.total, c.badFiles⟩

def succeeded [DecidableEq ν] (s : Summary ν) (all : Bool) : Bool :=
  if all then s.total.allPassed else s.required.allPassed

/-- The same summary in counts of another type, of which whole numbers are shown. -/
def map (f : ν → μ) (s : Summary ν) : Summary μ :=
  ⟨s.stages.map fun st => (st.1, st.2.map f), s.required.map f, s.total.map f, f s.badFiles⟩

end Counts

def rule : String := String.ofList (List.replicate 80 '-')

/-- Labels are filled up to the width of the longest there is, `Bad files`. -/
def labelWidth : Nat := 9

def label (text : String) : String :=
  text ++ String.ofList (List.replicate (labelWidth - text.length) ' ')

/-- Passed out of total, where the number that passed shows whether it is all of them. -/
def ratio (color : Bool) (t : Tally) : String :=
  (if t.allPassed then Style.green else Style.red).paint color (count t.passed) ++ "/" ++
    count t.total

def stageLine (color : Bool) (st : Stage × Tally) : String :=
  label st.1.name ++ ": " ++ ratio color st.2

def totalLine (color : Bool) (name : String) (t : Tally) : String :=
  Style.bold.paint color (label name) ++ ": " ++ ratio color t

/-- The lines of the text form. -/
def textLines (s : Summary) (color : Bool) : List String :=
  [rule] ++
  (if s.badFiles > 0 then [label "Bad files" ++ ": " ++ count s.badFiles, rule] else []) ++
  s.stages.map (stageLine color) ++
  [rule, totalLine color "Required" s.required, totalLine color "Total" s.total]

def text (s : Summary) (color : Bool) : String :=
  join "\n" (s.textLines color)

/-- The members of a tally in an object whose members are indented by `indent`. -/
def tallyMembers (indent : String) (t : Tally) : String :=
  indent ++ "\"passed\": " ++ count t.passed ++ ",\n" ++
  indent ++ "\"total\": " ++ count t.total ++ "\n"

def stageObject (st : Stage × Tally) : String :=
  "    \x7b\n      \"stage\": \"" ++ st.1.name ++ "\",\n" ++ tallyMembers "      " st.2 ++
  "    \x7d"

def stageArray (stages : List (Stage × Tally)) : String :=
  if stages.isEmpty then "[]"
  else "[\n" ++ join ",\n" (stages.map stageObject) ++ "\n  ]"

def tallyObject (t : Tally) : String :=
  "\x7b\n" ++ tallyMembers "    " t ++ "  \x7d"

/-- The JSON form, indented by two spaces a level. -/
def json (s : Summary) : String :=
  "\x7b\n  \"stages\": " ++ stageArray s.stages ++
  ",\n  \"required\": " ++ tallyObject s.required ++
  ",\n  \"total\": " ++ tallyObject s.total ++
  ",\n  \"bad_files\": " ++ count s.badFiles ++ "\n\x7d"

end Summary

end EngineTrials
