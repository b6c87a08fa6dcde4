import EngineTrials.Text.Blank
import EngineTrials.Text.Digits
import EngineTrials.Text.Pieces
import EngineTrials.Unicode.Property

/-!
# Log filters

A filter is a list of directives between commas: a level, a target, or `target[span]=level`. Only
whether a filter is well formed matters here. A directive that stands between blanks is cut up at
places counted without the blanks in front.
-/
namespace EngineTrials.Logging
open Text Unicode

inductive FilterProblem
  | directive
  | level
deriving DecidableEq, Inhabited

def FilterProblem.message : FilterProblem → String
  | directive => "invalid filter directive"
  | level => "error parsing level filter: expected one of \"off\", \"error\", " ++
      "\"warn\", \"info\", \"debug\", \"trace\", or a number 0-5"

def lowerAscii (c : Char) : Char :=
  if 'A' ≤ c ∧ c ≤ 'Z' then Char.ofNat (c.toNat + 32) else c

/-- A level by name, in any case, or by number. -/
def isLevel (cs : List Char) : Bool :=
  match bounded? 10 maxWord cs with
  | some n => n ≤ 5
  | none =>
    ["", "error", "warn", "info", "debug", "trace", "off"].contains
      (String.ofList (cs.map lowerAscii))

/-- The characters that a directive without span can begin with. -/
def beginsTarget (c : Char) : Bool :=
  c == '-' || c == ':' || c == '_' || Property.alphabetic.members.contains c ||
    (ofCategories ["Nd", "Nl", "No"]).contains c

/-- Where a reader of a directive stands. -/
inductive DirectivePosition
  | start
  | levelOrTarget
  | span
  | field (length : Nat)
  | fields
  | target
  | level (first : Nat)

/-- Reads the character at an index of a directive. -/
def DirectivePosition.step? (index : Nat) (c : Char) : DirectivePosition → Option DirectivePosition
  | .start =>
    if c = '[' then some .span else if beginsTarget c then some .levelOrTarget else none
  | .levelOrTarget =>
    if c = '=' then some (.level (index + 1))
    else if c = '[' then some .span
    else some .levelOrTarget
  | .span =>
    if c = ']' then some .target else if c = '\x7b' then some (.field 0) else some .span
  | .field length =>
    if c = '\x7d' then if length = 0 then none else some .fields else some (.field (length + 1))
  | .fields => if c = ']' then some .target else none
  | .target => if c = '=' then some (.level (index + 1)) else none
  | .level first => some (.level first)

/-- Follows a directive from a character on to its end. -/
def directiveEnd (index : Nat) (position : DirectivePosition) :
    List Char → Option DirectivePosition
  | [] => some position
  | c :: rest => do directiveEnd (index + 1) (← position.step? index c) rest

def directiveProblem? (directive : List Char) : Option FilterProblem :=
  match directiveEnd 0 .start (trimBlank directive) with
  | some .levelOrTarget => none
  | some .target => none
  | some (.level first) =>
    let level := directive.drop first
    if level.isEmpty || isLevel level then none else some .level
  | _ => some .directive

/-- The first problem of a filter. Empty directives are left out. -/
def filterProblem? (filter : String) : Option FilterProblem :=
  ((pieces (· == ',') filter.toList).filter fun d => !d.isEmpty).findSome? directiveProblem?

end EngineTrials.Logging
