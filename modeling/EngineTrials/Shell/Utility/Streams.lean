import EngineTrials.Duration
import EngineTrials.Shell.Format
import EngineTrials.Shell.Opening

/-!
# Programs that pass text on

`cat`, `head`, `tail`, `tee`, `wc`, `yes`, `seq` and `sleep`.
-/
namespace EngineTrials.Shell.Utility
open Text Shell.Action

/-- A program gets its arguments and gives its status. -/
abbrev Program := List ByteText → Action Nat

/-- Passes the input on as it comes. -/
def passInput : Action Unit := do
  match ← channel? 0 with
  | some (.pipe index) =>
    let p ← pipeAt index
    for c in p.waiting do
      put (← takeFromPipe index ((← pipeAt index).take c.text.length))
    if p.endless.isEmpty then waitUntil p.closes else writeEndlessly p.endless
  | _ => pure ()

def cat : Program := fun arguments => do
  let (found, operands) := options [] arguments
  if operands.isEmpty && (← channel? 0).isNone then
    complain "cat: -: Bad file descriptor\ncat: closing standard input: Bad file descriptor\n"
    return 1
  if found.any fun (c, _) => c == 'n' then
    let (text, status) ← allInput "cat" operands
    put ((inputLines text).zipIdx 1 |>.flatMap fun (line, i) =>
      let digits := numeral 10 i
      List.replicate (6 - digits.length) ' ' ++ digits ++ '\t' :: line ++ ['\n'])
    return status
  eachInput "cat" operands fun _ => passInput

/-- The bytes that a program reads at a time. -/
def blockSize : Nat := 8192

/-- Text in blocks until it holds so many lines; what is read beyond them is lost. -/
def readLines (count : Nat) : Nat → ByteText → Action ByteText
  | 0, text => return text
  | fuel + 1, text => do
    if count ≤ text.count '\n' then return text
    let block ← readWith 0 (Pipe.takeBlock blockSize)
    if block.isEmpty then return text else readLines count fuel (text ++ block)

/-- The first lines of a text. -/
def firstLines : Nat → ByteText → ByteText
  | 0, _ => []
  | n + 1, cs =>
    let line := cs.takeWhile (· != '\n')
    if line.length < cs.length then line ++ '\n' :: firstLines n (cs.drop (line.length + 1))
    else line

/-- A count of lines or bytes, the kind the last option asks for. -/
def amount (found : List (Char × ByteText)) : Char × ByteText :=
  match (found.filter fun (c, _) => c == 'n' || c == 'c').getLast? with
  | some a => a
  | none => ('n', "10".toList)

/-- `-5` means `-n 5`. -/
def shortCount (arguments : List ByteText) : List ByteText :=
  match arguments with
  | ('-' :: digits) :: rest =>
    if !digits.isEmpty && digits.all isDigit then ['-', 'n'] :: digits :: rest else arguments
  | _ => arguments

/-- Numbers with a multiplier of bytes. -/
def size? (text : ByteText) : Option Nat :=
  match text.getLast? with
  | some 'k' => (natural? 10 text.dropLast).map (· * 1024)
  | some 'K' => (natural? 10 text.dropLast).map (· * 1024)
  | some 'M' => (natural? 10 text.dropLast).map (· * 1048576)
  | some 'b' => (natural? 10 text.dropLast).map (· * 512)
  | _ => natural? 10 text

/-- A title before the text of each file, if there are several. -/
def titled (several first : Bool) (name : ByteText) : ByteText :=
  if several then
    (if first then [] else ['\n']) ++ "==> ".toList ++
      (if name = ['-'] then "standard input".toList else name) ++ " <==\n".toList
  else []

def invalidCount (program : String) (unit : Char) (text : ByteText) : Action Nat := do
  let what := if unit == 'c' then "bytes" else "lines"
  complain (program ++ ": invalid number of " ++ what ++ ": '" ++ textOf text ++ "'\n")
  return 1

def head : Program := fun arguments => do
  let (found, operands) := options ['n', 'c'] (shortCount arguments)
  let (unit, value) := amount found
  let several := operands.length > 1
  let allBut := value.head? == some '-'
  match size? (if allBut then value.drop 1 else value) with
  | none => invalidCount "head" unit value
  | some n =>
    eachInput "head" operands fun name => do
      put (titled several (operands.head? == some name) name)
      if allBut then
        let text ← readAll 0
        if unit == 'c' then put (text.take (text.length - n))
        else
          let lines := linesOf text
          put (firstLines (lines.length - n) text)
      else if unit == 'c' then put (← readWith 0 (Pipe.take n))
      else put (firstLines n (← readLines n (10 * blockSize + n) []))

def tail : Program := fun arguments => do
  let (found, operands) := options ['n', 'c'] (shortCount arguments)
  let (unit, value) := amount found
  let several := operands.length > 1
  let fromStart := value.head? == some '+'
  match size? (if fromStart || value.head? == some '-' then value.drop 1 else value) with
  | none => invalidCount "tail" unit value
  | some n =>
    eachInput "tail" operands fun name => do
      put (titled several (operands.head? == some name) name)
      let text ← readAll 0
      let total := if unit == 'c' then text.length else (linesOf text).length
      let skipped := if fromStart then n - 1 else total - n
      put (if unit == 'c' then text.drop skipped
        else text.drop (firstLines skipped text).length)

def tee : Program := fun arguments => do
  let (found, operands) := options [] arguments
  let appending := found.any fun (c, _) => c == 'a'
  let index ← addPipe {}
  let own ← channel? 1
  setChannel 1 (some (.pipe index))
  passInput
  setChannel 1 own
  let text := Pipe.textOf (← pipeAt index).inOrder
  put text
  let mut status := 0
  for operand in operands do
    match ← openForWriting operand appending with
    | .ok c => let _ ← writeTo c text
    | .error e =>
      complainAbout "tee" operand e
      status := 1
  return status

/-- Lines, words and bytes. -/
def measure (text : ByteText) : List Nat :=
  let isGap (c : Char) : Bool := c == ' ' || ('\t' ≤ c && c ≤ '\r')
  [text.count '\n', ((pieces isGap text).filter fun w => !w.isEmpty).length, text.length]

/-- Numbers right-aligned in columns, and a name. -/
def wcLine (width : Nat) (numbers : List Nat) (name : ByteText) : ByteText :=
  let columns := numbers.map fun n =>
    let digits := numeral 10 n
    List.replicate (width - digits.length) ' ' ++ digits
  glue [' '] columns ++ (if name.isEmpty then [] else ' ' :: name) ++ ['\n']

def wc : Program := fun arguments => do
  let (found, operands) := options [] arguments
  let asked (letters : List Char) : Bool := found.any fun (c, _) => letters.contains c
  let wanted := if found.isEmpty then [true, true, true]
    else [asked ['l'], asked ['w'], asked ['c', 'm']]
  let select (numbers : List Nat) : List Nat :=
    ((wanted.zip numbers).filter Prod.fst).map Prod.snd
  let index ← addPipe {}
  let status ← eachInput "wc" operands fun name => do
    let text ← readAll 0
    setPipe index ((← pipeAt index).write 0 (name ++ '\x00' :: text))
  let inputs := (← pipeAt index).inOrder.map fun c =>
    let name := c.text.takeWhile (· != '\x00')
    (name, measure (c.text.drop (name.length + 1)))
  let total := inputs.foldl (fun sum (_, m) => List.zipWith (· + ·) sum m) [0, 0, 0]
  let columns := (select total).length
  let width :=
    if columns = 1 && operands.length ≤ 1 then 1
    else if operands.isEmpty || operands.contains ['-'] then 7
    else (numeral 10 (total.getD 2 0)).length
  for (name, numbers) in inputs do
    put (wcLine width (select numbers) (if operands.isEmpty then [] else name))
  if operands.length > 1 then put (wcLine width (select total) "total".toList)
  return status

def yes : Program := fun arguments => do
  let words := if arguments.isEmpty then [['y']] else arguments
  writeEndlessly (glue [' '] words ++ ['\n'])
  return 141

def integer? (text : ByteText) : Option Int :=
  match text with
  | '-' :: digits => (natural? 10 digits).map fun n => -(n : Int)
  | '+' :: digits => (natural? 10 digits).map Int.ofNat
  | digits => (natural? 10 digits).map Int.ofNat

def seq : Program := fun arguments => do
  let (separator, operands) := match arguments with
    | ['-', 's'] :: s :: rest => (s, rest)
    | rest => (['\n'], rest)
  let range := match operands.map integer? with
    | [some last] => some (1, 1, last)
    | [some first, some last] => some (first, 1, last)
    | [some first, some step, some last] => some (first, step, last)
    | _ => none
  match range with
  | none =>
    match operands.find? fun o => (integer? o).isNone with
    | some o =>
      complain ("seq: invalid floating point argument: '" ++ textOf o ++
        "'\nTry 'seq --help' for more information.\n")
    | none =>
      complain "seq: missing operand\nTry 'seq --help' for more information.\n"
    return 1
  | some (first, step, last) =>
    let steps : Int := if step = 0 then -1 else (last - first).fdiv step
    let numbers := (List.range (steps + 1).toNat).map fun (i : Nat) =>
      decimalText (first + step * (i : Int))
    if !numbers.isEmpty then put (glue separator numbers ++ ['\n'])
    return 0

/-- A duration in seconds with an optional fraction and unit. -/
def pause? (text : ByteText) : Option Nat :=
  let (body, unit) := match text.getLast? with
    | some 's' => (text.dropLast, 1)
    | some 'm' => (text.dropLast, 60)
    | some 'h' => (text.dropLast, 3600)
    | some 'd' => (text.dropLast, 86400)
    | _ => (text, 1)
  let (negative, numerator, denominator, problems) := Format.fraction body
  if body.isEmpty || negative || !problems.isEmpty then none
  else some (numerator * unit * nanosPerSecond / denominator)

def sleep : Program := fun arguments => do
  if arguments.isEmpty then
    complain "sleep: missing operand\nTry 'sleep --help' for more information.\n"
    return 1
  let invalid := arguments.filter fun a => (pause? a).isNone && a != "infinity".toList
  for a in invalid do
    complain ("sleep: invalid time interval '" ++ textOf a ++ "'\n")
  if !invalid.isEmpty then
    complain "Try 'sleep --help' for more information.\n"
    return 1
  if arguments.contains "infinity".toList then throw .hung
  spend ((arguments.filterMap pause?).foldl (· + ·) 0)
  return 0

end EngineTrials.Shell.Utility
