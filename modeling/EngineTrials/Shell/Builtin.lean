import EngineTrials.Shell.Condition
import EngineTrials.Shell.Expansion
import EngineTrials.Shell.Format
import EngineTrials.Shell.Opening
import EngineTrials.Shell.Signal

/-!
# Commands within the shell

The commands that change the shell itself or are part of it. Each gets its arguments and gives its
status.
-/
namespace EngineTrials.Shell
open Text Shell.Action Expansion

abbrev Builtin := List ByteText → Action Nat

namespace Builtin

/-- Writes the output of a command; it fails if nobody takes it. -/
def putFor (command : String) (text : ByteText) : Action Bool := do
  if ← write 1 text then return true
  report (command ++ ": " ++ command ++ ": I/O error")
  return false

def echo : Builtin := fun arguments => do
  return if ← putFor "echo" (Format.echo arguments) then 0 else 1

/-- What the shell's own `printf` says of a problem. -/
def problemText : Format.Problem → String
  | .notNumber text => textOf text ++ ": expected numeric value"
  | .incomplete text => textOf text ++ ": not completely converted"
  | .badDirective text => textOf text ++ ": invalid directive"
  | .missingDirective => "missing format character"

/-- A faulty format is worse than a faulty argument. -/
def problemStatus : Format.Problem → Nat
  | .notNumber _ | .incomplete _ => 1
  | .badDirective _ | .missingDirective => 2

def printf : Builtin := fun arguments => do
  let arguments := match arguments with
    | ['-', '-'] :: rest => rest
    | rest => rest
  match arguments with
  | [] =>
    report "printf: usage: printf format [arg ...]"
    return 2
  | format :: rest =>
    let printed := Format.print false format rest
    let fine ← putFor "printf" printed.text
    for problem in printed.problems do
      report ("printf: " ++ problemText problem)
    return (printed.problems.map problemStatus).foldl max (if fine then 0 else 1)

/-- Decides a condition; a malformed one has status 2. -/
def decideCondition (name : String) (words : List ByteText) : Action Nat := do
  match Condition.holds (← files) words with
  | .ok true => return 0
  | .ok false => return 1
  | .error problem =>
    report (name ++ ": " ++ problem)
    return 2

def test : Builtin := decideCondition "test"

def bracket : Builtin := fun words => do
  if words.getLast? == some [']'] then decideCondition "[" words.dropLast
  else
    report "[: missing ]"
    return 2

def directoryText (names : List String) : ByteText := bytesOf ("/" ++ join "/" names)

def pwd : Builtin := fun _ => do
  return if ← putFor "pwd" (directoryText (← process).directory ++ ['\n']) then 0 else 1

def cd : Builtin := fun arguments => do
  let target := match arguments with
    | ['-', '-'] :: rest => rest.head?
    | rest => rest.head?
  let back := target == some ['-']
  let goal ← if back then valueOf "OLDPWD".toList
    else match target with
      | some t => pure (some t)
      | none => valueOf "HOME".toList
  let goal := goal.getD []
  let fs ← files
  match fs.locate ⟨textOf goal⟩ with
  | .ok trail =>
    if (fs.nodeAt trail).isDirectory then
      let names := FileSystem.trailNames trail
      setVariable "OLDPWD".toList (directoryText (← process).directory)
      modifyProcess fun p => { p with directory := names }
      setVariable "PWD".toList (directoryText names)
      if back then put (directoryText names ++ ['\n'])
      return 0
    report ("cd: can't cd to " ++ textOf goal)
    return 2
  | .error _ =>
    report ("cd: can't cd to " ++ textOf goal)
    return 2

/-- A line without its end, where a backslash quotes the next character or joins two lines. -/
def joinedLine (raw : Bool) : Nat → List Marked → Action (List Marked × Bool)
  | 0, line => return (line, false)
  | fuel + 1, line => do
    let (text, complete) ← readLine 0
    let text := if complete then text.dropLast else text
    let rec mark : ByteText → List Marked × Bool
      | [] => ([], false)
      | ['\\'] => if raw then ([('\\', false)], false) else ([], true)
      | '\\' :: c :: rest =>
        if raw then
          let (more, joins) := mark (c :: rest)
          (('\\', false) :: more, joins)
        else
          let (more, joins) := mark rest
          ((c, true) :: more, joins)
      | c :: rest =>
        let (more, joins) := mark rest
        ((c, false) :: more, joins)
    let (marks, joins) := mark text
    if joins && complete then joinedLine raw fuel (line ++ marks)
    else return (line ++ marks, complete)

/-- The values that a line gives to variables, the last of which gets all that is left. -/
def fieldsFor (separators : ByteText) : List ByteText → List Marked → List (ByteText × ByteText)
  | [], _ => []
  | name :: names, line =>
    let isBlank (m : Marked) : Bool := !m.2 && Fields.isBlankSeparator separators m.1
    let isSeparator (m : Marked) : Bool := !m.2 && separators.contains m.1
    let line := line.dropWhile isBlank
    if names.isEmpty then [(name, (dropTrailing isBlank line).map Prod.fst)]
    else
      let front := line.takeWhile fun m => !isSeparator m
      let rest := (line.drop front.length).dropWhile isBlank
      let rest := match rest with
        | m :: more => if isSeparator m && !isBlank m then more else rest
        | [] => []
      (name, front.map Prod.fst) :: fieldsFor separators names rest

def read : Builtin := fun arguments => do
  let (found, names) := options ['p'] arguments
  let raw := found.any fun (c, _) => c == 'r'
  let names := if names.isEmpty then ["REPLY".toList] else names
  match names.find? fun n => !isName n with
  | some n => die ("read: " ++ textOf n ++ ": bad variable name")
  | none =>
    let (line, complete) ← joinedLine raw 100000 []
    for (name, value) in fieldsFor (← separators) names line do
      setVariable name value
    return if complete then 0 else 1

/-- The number that an argument has to be. -/
def numberArgument (command : String) (text : ByteText) : Action Nat := do
  match natural? 10 text with
  | some n => return n
  | none => die (command ++ ": Illegal number: " ++ textOf text)

def exit : Builtin := fun arguments => do
  match arguments with
  | [] => throw (.exit (← process).status)
  | n :: _ => throw (.exit ((← numberArgument "exit" n) % 256))

def returnFrom : Builtin := fun arguments => do
  match arguments with
  | [] => throw .leaveFunction
  | n :: _ =>
    setStatus ((← numberArgument "return" n) % 256)
    throw .leaveFunction

/-- Leaves so many loops, or begins a new round of the last of them. -/
def leave (command : String) (stop : Nat → Stop) : Builtin := fun arguments => do
  let levels ← match arguments with
    | [] => pure 1
    | n :: _ => numberArgument command n
  if levels = 0 then die (command ++ ": Illegal number: 0")
  let loops := (← process).loops
  if loops = 0 then return 0
  setStatus 0
  throw (stop (min levels loops))

def shift : Builtin := fun arguments => do
  let n ← match arguments with
    | [] => pure 1
    | n :: _ => numberArgument "shift" n
  if (← process).arguments.length < n then die "shift: can't shift that many"
  modifyProcess fun p => { p with arguments := p.arguments.drop n }
  return 0

def setOption (on : Bool) (letter : Char) : Action Unit := do
  match letter with
  | 'e' => modifyProcess fun p => { p with stopsOnFailure := on }
  | 'u' => modifyProcess fun p => { p with refusesUnset := on }
  | 'f' => modifyProcess fun p => { p with noGlob := on }
  | 'x' | 'v' | 'n' | 'a' | 'b' | 'C' | 'm' | 'h' => pure ()
  | c => die ("set: Illegal option -" ++ String.singleton c)

def longOption (on : Bool) (name : ByteText) : Action Unit := do
  let letters := [("errexit", 'e'), ("nounset", 'u'), ("noglob", 'f'), ("xtrace", 'x')]
  match letters.lookup (textOf name) with
  | some letter => setOption on letter
  | none => die ("set: Illegal option -o " ++ textOf name)

/-- Options and then arguments of the shell. -/
def setAll : List ByteText → Action Unit
  | [] => return
  | ['-', '-'] :: rest => modifyProcess fun p => { p with arguments := rest }
  | ['-', 'o'] :: name :: rest => do longOption true name; setAll rest
  | ['+', 'o'] :: name :: rest => do longOption false name; setAll rest
  | word :: rest => do
    match word with
    | '-' :: c :: letters => do
      (c :: letters).forM (setOption true)
      setAll rest
    | '+' :: c :: letters => do
      (c :: letters).forM (setOption false)
      setAll rest
    | _ => modifyProcess fun p => { p with arguments := word :: rest }

def set : Builtin := fun arguments => do
  setAll arguments
  return 0

def unset : Builtin := fun arguments => do
  let (found, names) := options [] arguments
  let functions := found.any fun (c, _) => c == 'f'
  for name in names do
    if !isName name then die ("unset: " ++ textOf name ++ ": bad variable name")
    if ((← process).bindings.lookup name).any Variable.readOnly then
      die ("unset: " ++ textOf name ++ ": is read only")
  modifyProcess fun p =>
    if functions then { p with functions := p.functions.filter fun (n, _) => !names.contains n }
    else { p with bindings := p.bindings.filter fun (n, _) => !names.contains n }
  return 0

/-- Marks variables, after giving values to those that come with one. -/
def mark (command : String) (change : Variable → Variable) : Builtin := fun arguments => do
  for argument in (options [] arguments).2 do
    let name := argument.takeWhile (· != '=')
    if !isName name then die (command ++ ": " ++ textOf name ++ ": bad variable name")
    if name.length < argument.length then setVariable name (argument.drop (name.length + 1))
    modifyProcess fun p =>
      if (p.bindings.lookup name).isSome then
        { p with bindings := p.bindings.map fun (n, v) => (n, if n = name then change v else v) }
      else p
  return 0

/-- Variables that have their former values again after the function. -/
def localVariables : Builtin := fun arguments => do
  if !(← process).inFunction then die "local: not in a function"
  for argument in arguments do
    let name := argument.takeWhile (· != '=')
    modifyProcess fun p => { p with hidden := (name, p.bindings.lookup name) :: p.hidden }
    if name.length < argument.length then setVariable name (argument.drop (name.length + 1))
  return 0

/-- What to run when a signal comes, or nothing at all. -/
def trap : Builtin := fun arguments => do
  let arguments := match arguments with
    | ['-', '-'] :: rest => rest
    | rest => rest
  match arguments with
  | [] => return 0
  | first :: rest =>
    let (command, signals) :=
      if rest.isEmpty || (natural? 10 first).isSome then (none, first :: rest)
      else if first = ['-'] then (none, rest)
      else (some first, rest)
    for name in signals do
      match Signal.number? name with
      | none =>
        complain ("trap: " ++ textOf name ++ ": bad trap\n")
        return 1
      | some n =>
        modifyProcess fun p =>
          let others := p.traps.filter fun (k, _) => k != n
          { p with traps := match command with
            | some c => (n, c) :: others
            | none => others }
    return 0

def kill : Builtin := fun arguments => do
  let (number, targets) := match arguments with
    | ['-', 's'] :: name :: rest => (Signal.number? name, rest)
    | ['-', '-'] :: rest => (some 15, rest)
    | ('-' :: name) :: rest => (Signal.number? name, rest)
    | rest => (some 15, rest)
  if arguments.isEmpty then
    report ("kill: Usage: kill [-s sigspec | -signum | -sigspec] [pid | job]... or\n" ++
      "kill -l [exitstatus]")
    return 2
  match number with
  | none =>
    report ("kill: Illegal option -" ++ textOf (((arguments.headD []).drop 1).take 1))
    return 2
  | some number =>
    let mut status := 0
    for target in targets do
      match natural? 10 target with
      | none =>
        report ("kill: Illegal number: " ++ textOf target)
        status := 2
      | some n =>
        if !(← signal n number) then
          report "kill: No such process\n"
          status := 1
    return status

/-- Waits for the jobs that are named, or for all. -/
def wait : Builtin := fun arguments => do
  let jobs := (← process).jobs
  if arguments.isEmpty then
    for j in jobs do
      waitUntil j.ends
    return 0
  let mut status := 0
  for argument in arguments do
    match (natural? 10 argument).bind fun n => jobs.find? fun j => j.process == n with
    | some j =>
      waitUntil j.ends
      status := j.status
    | none => status := 127
  return status

/-- The commands whose assignments stay in force and whose faults end the shell. -/
def special : List (String × Builtin) :=
  [(":", fun _ => return 0), ("break", leave "break" .leaveLoop),
    ("continue", leave "continue" .nextRound), ("exit", exit),
    ("export", mark "export" fun v => { v with exported := true }),
    ("readonly", mark "readonly" fun v => { v with readOnly := true }), ("return", returnFrom),
    ("set", set), ("shift", shift), ("times", fun _ => return 0), ("trap", trap), ("unset", unset)]

def regular : List (String × Builtin) :=
  [("true", fun _ => return 0), ("false", fun _ => return 1), ("echo", echo), ("printf", printf),
    ("test", test), ("[", bracket), ("pwd", pwd), ("cd", cd), ("chdir", cd), ("read", read),
    ("local", localVariables), ("kill", kill), ("wait", wait), ("umask", fun _ => return 0),
    ("ulimit", fun _ => return 0), ("jobs", fun _ => return 0), ("hash", fun _ => return 0),
    ("alias", fun _ => return 0), ("unalias", fun _ => return 0)]

end Builtin

end EngineTrials.Shell
