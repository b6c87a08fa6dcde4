import EngineTrials.Shell.Reading.Command
import EngineTrials.Shell.Utility.Table

/-!
# Running commands

Commands change the shell process they are run in; subshells, parts of pipelines and programs get
processes of their own. What runs beside something else is run after it on a clock that is set back.
The first argument bounds how deeply commands and programs can be nested.
-/
namespace EngineTrials.Shell
open Text Shell.Action

namespace Action

/-- Runs an action and then another one, whether the first was stopped or not. -/
def thenAlways {α : Type} (body : Action α) (last : Action Unit) : Action α := do
  let a ← tryCatch body fun stop => do
    last
    throw stop
  last
  return a

/-- Runs an action whose failure is expected. -/
def expectingFailure {α : Type} (body : Action α) : Action α := do
  let before := (← process).tested
  modifyProcess fun p => { p with tested := true }
  thenAlways body (modifyProcess fun p => { p with tested := before })

/-- Ends the shell after a failure, if that was asked for. -/
def stopOnFailure : Action Unit := do
  let p ← process
  if p.stopsOnFailure && !p.tested && p.status != 0 then throw (.exit p.status)

/-- Runs an action with the channels it sets up undone at the end. -/
def keepingChannels {α : Type} (body : Action α) : Action α := do
  let channels := (← process).channels
  thenAlways body (modifyProcess fun p => { p with channels })

/-- One round of a loop: whether the loop goes on. -/
def round (body : Action Unit) : Action Bool := do
  let loops := (← process).loops
  modifyProcess fun p => { p with loops := loops + 1 }
  let again (goesOn : Bool) : Action Bool := do
    modifyProcess fun p => { p with loops }
    return goesOn
  tryCatch (do body; again true) fun stop =>
    match stop with
    | .leaveLoop levels => if 1 < levels then throw (.leaveLoop (levels - 1)) else again false
    | .nextRound levels => if 1 < levels then throw (.nextRound (levels - 1)) else again true
    | stop => throw stop

/-- Rounds as long as the test holds, at most so many. The status is that of the last round. -/
def rounds (test : Action Bool) (body : Action Unit) : Nat → Nat → Action Unit
  | 0, _ => throw .hung
  | n + 1, last => do
    if ← test then
      if ← round body then rounds test body n (← process).status
    else setStatus last

/-- Every round takes its time, so there can be no more than this. -/
def roundLimit : Action Nat := return (← get).machine.horizon / builtinTime + 2

/-- The status of this shell after a program ended. -/
def settle (ending : Ending) : Action Unit := do
  match ending with
  | .exited status => setStatus status
  | .signalled number =>
    match Signal.obituary? number with
    | some text => complain (text ++ "\n")
    | none => pure ()
    setStatus (128 + number)
  | .hung => throw .hung

/-- The process of a subshell. -/
def subshellOf (p : Process) : Process :=
  { p with
    jobs := [], loops := 0, pending := []
    traps := p.traps.filter fun (_, command) => command.isEmpty }

/-- The process of a program started from a shell. -/
def childOf (p : Process) (number : Nat) (name : ByteText) (arguments : List ByteText) : Process :=
  { name, arguments, number, directory := p.directory, channels := p.channels,
    bindings := p.bindings.filter fun (_, v) => v.exported,
    traps := p.traps.filter fun (_, command) => command.isEmpty }

/-- What the shell says of a file that it cannot open or make. -/
def openReason (writing : Bool) : FileError → String
  | .notFound => if writing then "Directory nonexistent" else "No such file"
  | e => e.reason

/-- Leads a descriptor to what was opened; false if it could not be opened. -/
def lead (descriptor : Nat) (path : ByteText) (writing : Bool) (opened : Opened) : Action Bool := do
  match opened with
  | .ok c =>
    setChannel descriptor (some c)
    return true
  | .error e =>
    report ("cannot " ++ (if writing then "create " else "open ") ++ textOf path ++ ": " ++
      openReason writing e)
    return false

/-- The outcome of looking for a program file. -/
inductive Located
  | native (name : String)
  /-- A script, its text and the path it was started by. -/
  | script (text : ByteText)
  | absent
  | refused (e : FileError)

def locate (name : ByteText) : Action Located := do
  if !name.contains '/' then
    return if Utility.isKnown (textOf name) then .native (textOf name) else .absent
  match Utility.ofPath? name with
  | some n => return .native n
  | none =>
    let fs ← files
    match fs.locate ⟨textOf name⟩ with
    | .error .notFound | .error .notDirectory => return .absent
    | .error e => return .refused e
    | .ok trail =>
      match fs.nodeAt trail with
      | .file contents true => return .script (contents.map Latin1.decodeByte)
      | _ => return .refused .permission

/-- The interpreter of a script and its argument, if its first line names one. -/
def interpreter? (text : ByteText) : Option (List ByteText) :=
  match text with
  | '#' :: '!' :: rest =>
    let line := trimBlank (rest.takeWhile (· != '\n'))
    let program := line.takeWhile fun c => c != ' ' && c != '\t'
    let argument := trimBlank (line.drop program.length)
    some (if argument.isEmpty then [program] else [program, argument])
  | _ => none

/-- Assignments in front of a program of `env`. -/
def environmentOf (arguments : List ByteText) : List (ByteText × ByteText) × List ByteText :=
  let isAssignment (a : ByteText) : Bool := a.contains '='
  let front := arguments.takeWhile isAssignment
  (front.map fun a =>
    let name := a.takeWhile (· != '=')
    (name, a.drop (name.length + 1)), arguments.drop front.length)

/-- What a shell is started with: its options, the text to run or the file that holds it, its name
and its arguments. -/
structure Invocation where
  letters : List Char := []
  text : Option ByteText := none
  rest : List ByteText := []

def invocation : Nat → Invocation → List ByteText → Invocation
  | 0, i, arguments => { i with rest := arguments }
  | fuel + 1, i, arguments =>
    match arguments with
    | ['-', '-'] :: rest => { i with rest }
    | ('-' :: c :: letters) :: rest =>
      let letters := c :: letters
      let i := { i with letters := i.letters ++ letters }
      if letters.contains 'c' then
        match rest with
        | text :: rest => { i with text := some text, rest }
        | [] => i
      else invocation fuel i rest
    | rest => { i with rest }

end Action

mutual

def run : Nat → Command → Action Unit
  | 0, _ => throw .hung
  | depth + 1, command => do
    match command with
    | .simple line assignments words redirections =>
      runSimple depth line assignments words redirections
      runPending depth
      stopOnFailure
    | .redirected body line redirections =>
      modifyProcess fun p => { p with line }
      keepingChannels do
        if ← redirect depth redirections then run depth body
        else
          setStatus 2
          stopOnFailure
    | .pipeline parts =>
      runPipeline depth parts
      stopOnFailure
    | .negated body =>
      expectingFailure (run depth body)
      setStatus (if (← process).status = 0 then 1 else 0)
    | .both first second =>
      expectingFailure (run depth first)
      if (← process).status = 0 then run depth second
    | .either first second =>
      expectingFailure (run depth first)
      if (← process).status != 0 then run depth second
    | .background body => runBeside depth body
    | .group body => runAll depth body
    | .subshell body =>
      let p ← process
      settle (← inProcess (subshellOf p) (runToEnd depth body))
      stopOnFailure
    | .conditional test accepted refused =>
      expectingFailure (runAll depth test)
      if (← process).status = 0 then runAll depth accepted
      else if refused.isEmpty then setStatus 0
      else runAll depth refused
    | .loop negated test body =>
      let holds : Action Bool := do
        expectingFailure (runAll depth test)
        return ((← process).status == 0) != negated
      rounds holds (runAll depth body) (← roundLimit) 0
    | .each name words body =>
      let values ← match words with
        | some words => Expansion.fields (substitute depth) words
        | none => pure (← process).arguments
      setStatus 0
      runEach depth name body values
    | .choice subject arms =>
      let text ← Expansion.single (substitute depth) subject
      setStatus 0
      runChoice depth text arms
    | .function name body =>
      modifyProcess fun p =>
        { p with
          functions := (name, body) :: p.functions.filter fun (n, _) => n != name
          status := 0 }

def runAll : Nat → List Command → Action Unit
  | 0, _ => throw .hung
  | _ + 1, [] => return
  | depth + 1, command :: rest => do
    run depth command
    runAll depth rest

/-- Runs the commands of a process and then what it has trapped its end with. -/
def runToEnd : Nat → List Command → Action Unit
  | 0, _ => throw .hung
  | depth + 1, commands => do
    let stop ← tryCatch (do runAll depth commands; return none) fun stop =>
      match stop with
      | .exit status => do setStatus status; return some stop
      | .signal _ _ | .hung => throw stop
      | stop => return some stop
    match (← process).traps.lookup 0 with
    | some text =>
      modifyProcess fun p => { p with traps := p.traps.filter fun (n, _) => n != 0 }
      let status := (← process).status
      runText depth "" text
      setStatus status
    | none => pure ()
    match stop with
    | some stop => throw stop
    | none => pure ()

/-- Runs a text as commands, as far as it can be read. A fault is reported under a name. -/
def runText : Nat → String → ByteText → Action Unit
  | 0, _, _ => throw .hung
  | depth + 1, name, text => do
    let script := Reading.script text 1
    if script.commands.isEmpty then setStatus 0
    runAll depth script.commands
    match script.fault with
    | some fault =>
      modifyProcess fun p => { p with line := fault.line }
      die (name ++ fault.message)
    | none => pure ()

def runPending : Nat → Action Unit
  | 0 => throw .hung
  | depth + 1 => do
    match (← process).pending with
    | [] => return
    | text :: rest =>
      modifyProcess fun p => { p with pending := rest }
      let status := (← process).status
      runText depth "" text
      setStatus status
      runPending depth

/-- The output of commands without the line ends at its end. -/
def substitute : Nat → List Command → Action ByteText
  | 0, _ => throw .hung
  | depth + 1, commands => do
    let index ← addPipe {}
    let p ← process
    let child := { subshellOf p with
      channels := (1, .pipe index) :: p.channels.filter fun (d, _) => d != 1 }
    match ← inProcess child (runToEnd depth commands) with
    | .exited status => modifyProcess fun p => { p with status, substituted := status }
    | .signalled number => modifyProcess fun p => { p with status := 128 + number }
    | .hung => throw .hung
    turnPipe index (← clock)
    match (← pipeAt index).takeAll? with
    | some t =>
      let text ← takeFromPipe index t
      return dropTrailing (· == '\n') (text.filter (· != '\x00'))
    | none => throw .hung

/-- Sets up redirections in order; false if one of them cannot be. -/
def redirect : Nat → List Redirection → Action Bool
  | 0, _ => throw .hung
  | _ + 1, [] => return true
  | depth + 1, r :: rest => do
    let path (w : Word) : Action ByteText := Expansion.single (substitute depth) w
    let done ← match r with
      | .input descriptor w => do
        let p ← path w
        lead descriptor p false (← openForReading p)
      | .output descriptor w => do
        let p ← path w
        lead descriptor p true (← openForWriting p false)
      | .append descriptor w => do
        let p ← path w
        lead descriptor p true (← openForWriting p true)
      | .hereDocument descriptor body => do
        let index ← addPipe (.ofText (← path body))
        setChannel descriptor (some (.pipe index))
        pure true
      | .duplicate descriptor w => do
        let target ← path w
        if target = ['-'] then
          setChannel descriptor none
          pure true
        else
          match (natural? 10 target) with
          | some n =>
            match ← channel? n with
            | some c =>
              setChannel descriptor (some c)
              pure true
            | none =>
              report (count n ++ ": Bad file descriptor")
              pure false
          | none => die "Syntax error: Bad fd number"
    if done then redirect depth rest else return false

def assign : Nat → List (ByteText × Word) → Action Unit
  | 0, _ => throw .hung
  | _ + 1, [] => return
  | depth + 1, (name, word) :: rest => do
    Expansion.setVariable name (← Expansion.single (substitute depth) word)
    assign depth rest

/-- Expands a simple command and runs it as what its first word names. -/
def runSimple : Nat → Nat → List (ByteText × Word) → List Word → List Redirection → Action Unit
  | 0, _, _, _, _ => throw .hung
  | depth + 1, line, assignments, words, redirections => do
    modifyProcess fun p => { p with line, substituted := 0 }
    spend builtinTime
    match ← Expansion.fields (substitute depth) words with
    | [] =>
      let fine ← keepingChannels (redirect depth redirections)
      if fine then
        assign depth assignments
        modifyProcess fun p => { p with status := p.substituted }
      else setStatus 2
    | name :: arguments =>
      let word := textOf name
      if word = "exec" then
        if !(← redirect depth redirections) then throw (.exit 2)
        assign depth assignments
        match arguments with
        | [] => setStatus 0
        | program :: rest => runInPlace depth program rest
      else
        match Builtin.special.lookup word with
        | some builtin =>
          assign depth assignments
          keepingChannels do
            if ← redirect depth redirections then setStatus (← builtin arguments)
            else throw (.exit 2)
        | none =>
          keepingChannels do
            if ← redirect depth redirections then runNamed depth name arguments assignments
            else setStatus 2

/-- Runs a command that is none of the special ones. Assignments are undone after it. -/
def runNamed : Nat → ByteText → List ByteText → List (ByteText × Word) → Action Unit
  | 0, _, _, _ => throw .hung
  | depth + 1, name, arguments, assignments => do
    let word := textOf name
    let p ← process
    let undo : Action Unit :=
      if assignments.isEmpty then pure ()
      else modifyProcess fun q =>
        let names := assignments.map Prod.fst
        { q with bindings := (p.bindings.filter fun (n, _) => names.contains n) ++
            q.bindings.filter fun (n, _) => !names.contains n }
    if word = "eval" then
      assign depth assignments
      runText depth "eval: " (glue [' '] arguments)
    else if word = "." then
      match arguments with
      | path :: _ =>
        match (← files).read ⟨textOf path⟩ with
        | .ok contents => runText depth "" (contents.map Latin1.decodeByte)
        | .error e =>
          if !path.contains '/' then die (".: " ++ textOf path ++ ": not found")
          die (".: cannot open " ++ textOf path ++ ": " ++ openReason false e)
      | [] => setStatus 0
    else if word = "command" then
      match arguments with
      | ['-', 'v'] :: names => runDescription depth names
      | name :: rest => runNamed depth name rest assignments
      | [] => setStatus 0
    else
      match p.functions.lookup name with
      | some body =>
        assign depth assignments
        runFunction depth body arguments
        undo
      | none =>
        match Builtin.regular.lookup word with
        | some builtin =>
          assign depth assignments
          setStatus (← thenAlways (builtin arguments) undo)
        | none =>
          match ← locate name with
          | .absent =>
            report (word ++ ": not found")
            setStatus 127
          | .refused e =>
            report (word ++ ": " ++ e.reason)
            setStatus 126
          | _ =>
            let child := childOf p (← freshNumber) name arguments
            settle (← inProcess child (runProgram depth name arguments assignments))

/-- Says what names stand for. -/
def runDescription : Nat → List ByteText → Action Unit
  | 0, _ => throw .hung
  | _ + 1, [] => return
  | depth + 1, name :: rest => do
    let word := textOf name
    let p ← process
    let known := (p.functions.lookup name).isSome || (Builtin.special.lookup word).isSome ||
      (Builtin.regular.lookup word).isSome || ["eval", ".", "exec", "command"].contains word
    let text ← if known then pure (some name)
      else do
        match ← locate name with
        | .native n => pure (some (if name.contains '/' then name else bytesOf ("/usr/bin/" ++ n)))
        | .script _ => pure (some name)
        | _ => pure none
    match text with
    | some t =>
      put (t ++ ['\n'])
      setStatus 0
    | none => setStatus 127
    runDescription depth rest

/-- Runs the body of a function with arguments of its own. -/
def runFunction : Nat → Command → List ByteText → Action Unit
  | 0, _, _ => throw .hung
  | depth + 1, body, arguments => do
    let before ← process
    modifyProcess fun p => { p with arguments, hidden := [], inFunction := true, loops := 0 }
    let restore : Action Unit := modifyProcess fun p =>
      let hidden := p.hidden
      let names := hidden.map Prod.fst
      let former := hidden.reverse.foldl (fun found (n, v) =>
        match v with
        | some v => if (found.lookup n).isNone then (n, v) :: found else found
        | none => found) ([] : List (ByteText × Variable))
      { p with arguments := before.arguments, hidden := before.hidden
               inFunction := before.inFunction, loops := before.loops
               bindings := former ++ p.bindings.filter fun (n, _) => !names.contains n }
    let stop ← tryCatch (do run depth body; return none) fun stop =>
      match stop with
      | .leaveFunction => return none
      | stop => return some stop
    restore
    match stop with
    | some stop => throw stop
    | none => pure ()

/-- Becomes a program: runs it in this process, and ends with it. -/
def runInPlace : Nat → ByteText → List ByteText → Action Unit
  | 0, _, _ => throw .hung
  | depth + 1, name, arguments => do
    let p ← process
    match ← locate name with
    | .absent =>
      report ("exec: " ++ textOf name ++ ": not found")
      throw (.exit 127)
    | .refused e =>
      report ("exec: " ++ textOf name ++ ": " ++ e.reason)
      throw (.exit 126)
    | _ =>
      modifyProcess fun _ => childOf p p.number name arguments
      runProgram depth name arguments []
      throw (.exit (← process).status)

/-- Runs a program in the process made for it. -/
def runProgram : Nat → ByteText → List ByteText → List (ByteText × Word) → Action Unit
  | 0, _, _, _ => throw .hung
  | depth + 1, name, arguments, assignments => do
    assign depth assignments
    modifyProcess fun p =>
      { p with bindings := p.bindings.map fun (n, v) => (n, { v with exported := true }) }
    spend programTime
    match ← locate name with
    | .native n =>
      match Utility.programs.lookup n with
      | some program => setStatus (← program arguments)
      | none => if n = "env" then runEnvironment depth arguments else runShell depth name arguments
    | .script text =>
      match interpreter? text with
      | some words =>
        match ← locate (words.headD []) with
        | .native n =>
          let arguments := words.tail ++ name :: arguments
          match Utility.programs.lookup n with
          | some program => setStatus (← program arguments)
          | none =>
            if n = "env" then runEnvironment depth arguments else runShell depth name arguments
        | _ =>
          report (textOf name ++ ": not found")
          setStatus 127
      | none => runShell depth name (name :: arguments)
    | .absent =>
      report (textOf name ++ ": not found")
      setStatus 127
    | .refused e =>
      report (textOf name ++ ": " ++ e.reason)
      setStatus 126

/-- Runs a program with more variables, or lists the variables. -/
def runEnvironment : Nat → List ByteText → Action Unit
  | 0, _ => throw .hung
  | depth + 1, arguments => do
    let (settings, rest) := environmentOf arguments
    for (name, value) in settings do
      Expansion.setVariable name value
    match rest with
    | [] =>
      for (name, v) in (← process).bindings do
        put (name ++ '=' :: v.value ++ ['\n'])
      setStatus 0
    | program :: more =>
      match ← locate program with
      | .absent =>
        complain ("env: '" ++ textOf program ++ "': No such file or directory\n")
        setStatus 127
      | _ => runProgram depth program more []

/-- A shell as a program. -/
def runShell : Nat → ByteText → List ByteText → Action Unit
  | 0, _, _ => throw .hung
  | depth + 1, name, arguments => do
    let i := invocation (arguments.length + 1) {} arguments
    match i.letters.find? fun c => !"abCcefhimnsuvx".contains c with
    | some c =>
      modifyProcess fun p => { p with line := 0, name }
      die ("Illegal option -" ++ String.singleton c)
    | none => pure ()
    modifyProcess fun p =>
      { p with functions := [], stopsOnFailure := i.letters.contains 'e'
               refusesUnset := i.letters.contains 'u', line := 0, name }
    let start (name : ByteText) (arguments : List ByteText) (text : ByteText) : Action Unit := do
      modifyProcess fun p => { p with name, arguments, line := 1 }
      let script := Reading.script text 1
      runToEnd depth script.commands
      match script.fault with
      | some fault =>
        modifyProcess fun p => { p with line := fault.line }
        die fault.message
      | none => pure ()
    match i.text, i.rest with
    | some text, own :: rest => start own rest text
    | some text, [] => start name [] text
    | none, path :: rest =>
      if i.letters.contains 'c' then die "-c requires an argument"
      if i.letters.contains 's' then start name (path :: rest) (← readAll 0)
      else
        match (← files).read ⟨textOf path⟩ with
        | .ok contents => start path rest (contents.map Latin1.decodeByte)
        | .error e => die ("cannot open " ++ textOf path ++ ": " ++ openReason false e)
    | none, [] =>
      if i.letters.contains 'c' then die "-c requires an argument"
      start name [] (← readAll 0)

/-- Runs the parts of a pipeline beside each other; the time it takes is that of the longest. -/
def runPipeline : Nat → List Command → Action Unit
  | 0, _ => throw .hung
  | depth + 1, parts => do
    let start ← clock
    let (ending, ends) ← runParts depth start none parts
    resumeAt start
    waitUntil ends
    settle ending

/-- The ending of the last part, and when the last of all ended. `input` is the pipe that the first
of the parts reads from. -/
def runParts : Nat → Nat → Option Nat → List Command → Action (Ending × Nat)
  | 0, _, _, _ => throw .hung
  | _ + 1, start, _, [] => return (.exited 0, start)
  | depth + 1, start, input, part :: rest => do
    resumeAt start
    let p := subshellOf (← process)
    let others (d : Nat) : List (Nat × Channel) := p.channels.filter fun (e, _) => e != d
    let p := match input with
      | some index => { p with channels := (0, .pipe index) :: others 0 }
      | none => p
    if rest.isEmpty then
      let ending ← inProcess p (runToEnd depth [part])
      return (ending, ← clock)
    let index ← addPipe {}
    let channels := (1, Channel.pipe index) :: p.channels.filter fun (d, _) => d != 1
    let own ← inProcess { p with channels } (runToEnd depth [part])
    let ends ← clock
    let lastWrite := Pipe.lastTime (← pipeAt index).written
    turnPipe index ends
    let (ending, others) ← runParts depth start (some index) rest
    if own = .hung ∧ others < lastWrite then return (ending, others)
    return (ending, max ends others)

/-- Runs a command beside what follows it, without input. -/
def runBeside : Nat → Command → Action Unit
  | 0, _ => throw .hung
  | depth + 1, command => do
    let start ← clock
    let number ← freshNumber
    let p := subshellOf (← process)
    let channels := (0, Channel.null) :: p.channels.filter fun (d, _) => d != 0
    let finish : Action Unit := do holdUntil number (← clock)
    let forEver : Action Unit := do holdUntil number ((← get).machine.horizon + 1)
    let body : Action Unit := do
      match command with
      | .simple line assignments words redirections =>
        if ← redirect depth redirections then
          runToEnd depth [.simple line assignments words []]
        else setStatus 2
      | .redirected inner line redirections =>
        modifyProcess fun p => { p with line }
        if ← redirect depth redirections then runToEnd depth [inner] else setStatus 2
      | other => runToEnd depth [other]
    let guarded : Action Unit := tryCatch (do body; finish) fun stop => do
      if stop = .hung then forEver else finish
      match stop with
      | .signal _ n => throw (.exit (128 + n))
      | stop => throw stop
    let ending ← inProcess { p with channels } guarded
    let ends ← if ending = .hung then pure ((← get).machine.horizon + 1) else clock
    let status := match ending with
      | .exited status => status
      | .signalled n => 128 + n
      | .hung => 0
    resumeAt start
    modifyProcess fun p =>
      { p with jobs := p.jobs ++ [⟨number, ends, status⟩], lastJob := some number, status := 0 }

def runEach : Nat → ByteText → List Command → List ByteText → Action Unit
  | 0, _, _, _ => throw .hung
  | _ + 1, _, _, [] => return
  | depth + 1, name, body, value :: rest => do
    Expansion.setVariable name value
    spend builtinTime
    if ← round (runAll depth body) then runEach depth name body rest

def runChoice : Nat → ByteText → List (List Word × List Command) → Action Unit
  | 0, _, _ => throw .hung
  | _ + 1, _, [] => return
  | depth + 1, text, (patterns, body) :: rest => do
    if ← fitsAny depth text patterns then runAll depth body else runChoice depth text rest

def fitsAny : Nat → ByteText → List Word → Action Bool
  | 0, _, _ => throw .hung
  | _ + 1, _, [] => return false
  | depth + 1, text, word :: rest => do
    if Pattern.fits (← Expansion.pattern (substitute depth) word) text then return true
    else fitsAny depth text rest

end

end EngineTrials.Shell
