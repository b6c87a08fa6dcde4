import EngineTrials.Path
import EngineTrials.Text.Digits

/-!
# Arguments

What the words of a command line ask for. Words are read from left to right: options of the program,
the name of a task, then options and operands of the task, where the options of the program may
stand as well. The first word that asks for help or makes no sense ends the reading.
-/
namespace EngineTrials.CommandLine
open Text

inductive OutputFormat
  | text
  | json
deriving DecidableEq, Inhabited

structure TestOptions where
  /-- Whether optional cases have to pass too. -/
  all : Bool := false
  jobs : Nat := 1
  format : OutputFormat := .text
  binDir : Option Path := none
  extraArguments : Option String := none
  /-- Files and directories; none stands for the test root. -/
  paths : List Path := []
deriving DecidableEq, Inhabited

structure BenchOptions where
  extraArguments : Option String := none
  repetitions : Option Nat := none
  binary : Option Path := none
  csv : Option Path := none
  /-- The suites to run; none stands for all. -/
  suites : List String := []
deriving DecidableEq, Inhabited

inductive Task
  | test (options : TestOptions)
  | bench (options : BenchOptions)
deriving DecidableEq, Inhabited

structure Request where
  verbose : Bool := false
  noColor : Bool := false
  config : Option Path := none
  logDirectory : Option Path := none
  task : Task
deriving DecidableEq, Inhabited

/-- Why words make no sense. -/
inductive Misuse
  | unknownOption (word : String)
  | missingValue (option : String)
  | unexpectedValue (option : String)
  | repeated (option : String)
  | invalidValue (option value : String)
  | unknownTask (word : String)
  | noTask
deriving DecidableEq, Inhabited

namespace Misuse

def message : Misuse → String
  | unknownOption word => "unexpected argument '" ++ word ++ "' found"
  | missingValue option => "a value is required for '" ++ option ++ "' but none was supplied"
  | unexpectedValue option => "unexpected value for '" ++ option ++ "' found"
  | repeated option => "the argument '" ++ option ++ "' cannot be used multiple times"
  | invalidValue option value => "invalid value '" ++ value ++ "' for '" ++ option ++ "'"
  | unknownTask word => "unrecognized subcommand '" ++ word ++ "'"
  | noTask => "a subcommand is required but one was not provided"

end Misuse

/-- Why reading ends early. -/
inductive Interruption
  | help
  | version
  | misuse (m : Misuse)
deriving DecidableEq, Inhabited

abbrev Reading := Except Interruption

def refuse {α : Type} (m : Misuse) : Reading α := .error (.misuse m)

/-- The name of an option; its value follows, is attached, or there is none. -/
structure OptionSpec where
  long : String
  short : Option Char := none
  takesValue : Bool := false
  /-- Whether the value may look like an option. -/
  takesHyphens : Bool := false
  /-- Which values make sense. -/
  accepts : String → Bool := fun _ => true

namespace OptionSpec

/-- An option whose value is a path, which cannot be empty. -/
def path (long : String) : OptionSpec := ⟨long, none, true, false, fun v => !v.isEmpty⟩

/-- An option whose value is a whole number within bounds. -/
def number (long : String) (short : Option Char) (least greatest : Int) : OptionSpec :=
  ⟨long, short, true, false, fun v => (boundedInt? 10 least greatest v.toList).isSome⟩

def shown (o : OptionSpec) : String := "--" ++ o.long

end OptionSpec

/-- The options of the program, which may stand before and after the name of the task. -/
def programOptions : List OptionSpec :=
  [{ long := "verbose", short := some 'v' }, .path "config", { long := "no-color" },
    .path "log-dir", { long := "help", short := some 'h' }]

def versionOption : OptionSpec := { long := "version", short := some 'V' }

def argumentsOption : OptionSpec := { long := "args", takesValue := true, takesHyphens := true }

def testOptions : List OptionSpec :=
  [{ long := "all", short := some 'a' }, .number "jobs" (some 'j') 1 65535,
    { long := "format", takesValue := true, accepts := fun v => v == "text" || v == "json" },
    .path "bin-dir", argumentsOption]

def benchOptions : List OptionSpec :=
  [argumentsOption, .number "repetitions" none 1 1000, .path "binary", .path "csv"]

/-- The options found, by their long names with their values, and the operands. -/
structure Found where
  options : List (String × String) := []
  operands : List String := []
deriving DecidableEq, Inhabited

namespace Found

def has (f : Found) (long : String) : Bool := (f.options.lookup long).isSome

def value? (f : Found) (long : String) : Option String := f.options.lookup long

def path? (f : Found) (long : String) : Option Path := (f.value? long).map Path.mk

def number? (f : Found) (long : String) : Option Nat :=
  ((f.value? long).bind fun v => boundedInt? 10 0 65535 v.toList).map Int.toNat

/-- Adds an option, unless it asks for something else or was there before. -/
def add (f : Found) (o : OptionSpec) (value : String) : Reading Found :=
  if o.long = "help" then .error .help
  else if o.long = versionOption.long then .error .version
  else if f.has o.long then refuse (.repeated o.shown)
  else if o.accepts value then .ok { f with options := (o.long, value) :: f.options }
  else refuse (.invalidValue o.shown value)

end Found

/-- What a word is, before anything is known about options. -/
inductive Shape
  /-- Two hyphens: what follows are operands. -/
  | escape
  | long (name : List Char) (value : Option String)
  | short (letters : List Char)
  | plain

def shapeOf (word : String) : Shape :=
  match word.toList with
  | ['-', '-'] => .escape
  | '-' :: '-' :: rest =>
    let name := rest.takeWhile (· != '=')
    .long name (if name.length < rest.length then some (String.ofList (rest.drop (name.length + 1)))
      else none)
  | '-' :: c :: rest => .short (c :: rest)
  | _ => .plain

def looksPlain (word : String) : Bool :=
  match shapeOf word with
  | .plain => true
  | _ => false

/-- Takes the next word as the value of an option. -/
def takeValue (f : Found) (o : OptionSpec) : List String → Reading (Found × List String)
  | [] => refuse (.missingValue o.shown)
  | word :: rest =>
    if o.takesHyphens || looksPlain word then do return (← f.add o word, rest)
    else refuse (.missingValue o.shown)

/-- Reads letters after one hyphen. The rest of the letters, or the next word, is the value of a
letter that takes one. -/
def readLetters (specs : List OptionSpec) (following : List String) :
    List Char → Found → Reading (Found × List String)
  | [], f => .ok (f, following)
  | c :: letters, f =>
    match specs.find? fun o => o.short == some c with
    | none => refuse (.unknownOption (String.ofList ['-', c]))
    | some o =>
      if o.takesValue then
        match letters with
        | [] => takeValue f o following
        | '=' :: value => do return (← f.add o (String.ofList value), following)
        | value => do return (← f.add o (String.ofList value), following)
      else do readLetters specs following letters (← f.add o "")

/-- Reads an option written out, with what is attached to it or follows it. -/
def readLong (specs : List OptionSpec) (following : List String) (name : List Char)
    (attached : Option String) (f : Found) : Reading (Found × List String) :=
  match specs.find? fun o => o.long.toList == name with
  | none => refuse (.unknownOption ("--" ++ String.ofList name))
  | some o =>
    match o.takesValue, attached with
    | true, some value => do return (← f.add o value, following)
    | true, none => takeValue f o following
    | false, some _ => refuse (.unexpectedValue o.shown)
    | false, none => do return (← f.add o "", following)

/-- Reads words up to one that is no option or, if `all`, to the end. `fuel` bounds their number. -/
def scan (specs : List OptionSpec) (all : Bool) : Nat → Found → List String →
    Reading (Found × List String)
  | 0, f, words => .ok (f, words)
  | fuel + 1, f, words =>
    match words with
    | [] => .ok (f, [])
    | word :: rest =>
      match shapeOf word with
      | .escape => .ok ({ f with operands := f.operands ++ rest }, [])
      | .long name attached => do
        let (f, rest) ← readLong specs rest name attached f
        scan specs all fuel f rest
      | .short letters => do
        let (f, rest) ← readLetters specs rest letters f
        scan specs all fuel f rest
      | .plain =>
        if all then scan specs all fuel { f with operands := f.operands ++ [word] } rest
        else .ok (f, words)

/-- The variable that stands in for an option that is not given. -/
def variableOf (long : String) : String :=
  if long = "config" then "STAGEBENCH_CONFIG" else "STAGEBENCH_LOG_DIR"

/-- The value of a path that may be given before or after the task, or by a variable. A later one
wins; an empty variable is looked at wherever the option is missing. -/
def programPath (environment : String → Option String) (before after : Found) (long : String) :
    Reading (Option Path) :=
  let fromVariable := environment (variableOf long)
  if fromVariable = some "" ∧ !(before.has long && after.has long) then
    refuse (.missingValue ("--" ++ long))
  else
    .ok (((after.path? long).orElse fun _ => before.path? long).orElse fun _ =>
      fromVariable.map Path.mk)

def testTask (f : Found) : Reading Task :=
  match f.operands.find? String.isEmpty with
  | some _ => refuse (.missingValue "[PATHS]...")
  | none => .ok (.test
    { all := f.has "all"
      jobs := (f.number? "jobs").getD 1
      format := if f.value? "format" = some "json" then .json else .text
      binDir := f.path? "bin-dir"
      extraArguments := f.value? "args"
      paths := f.operands.map Path.mk })

def benchTask (f : Found) : Task :=
  .bench
    { extraArguments := f.value? "args"
      repetitions := f.number? "repetitions"
      binary := f.path? "binary"
      csv := f.path? "csv"
      suites := f.operands }

/-- The words after `help` name one task at most. -/
def help {α : Type} : List String → Reading α
  | [] => .error .help
  | [task] =>
    if ["test", "bench", "help"].contains task then .error .help else refuse (.unknownTask task)
  | _ :: word :: _ => refuse (.unknownTask word)

/-- What the words after the name of the program ask for. -/
def read (environment : String → Option String) (words : List String) : Reading Request := do
  let fuel := words.length + 1
  let (before, rest) ← scan (versionOption :: programOptions) false fuel {} words
  match before.operands, rest with
  | word :: _, _ => refuse (.unknownTask word)
  | [], [] => refuse .noTask
  | [], name :: rest =>
    let own ← if name = "test" then pure testOptions
      else if name = "bench" then pure benchOptions
      else if name = "help" then help rest
      else refuse (.unknownTask name)
    let (after, _) ← scan (own ++ programOptions) true fuel {} rest
    let task ← if name = "test" then testTask after else pure (benchTask after)
    return { verbose := before.has "verbose" || after.has "verbose"
             noColor := before.has "no-color" || after.has "no-color"
             config := ← programPath environment before after "config"
             logDirectory := ← programPath environment before after "log-dir"
             task }

end EngineTrials.CommandLine
