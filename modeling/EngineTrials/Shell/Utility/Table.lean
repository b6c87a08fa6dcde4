import EngineTrials.Shell.Builtin
import EngineTrials.Shell.Utility.Files
import EngineTrials.Shell.Utility.Lines

/-!
# Programs by name

The programs that can be started without a path. They differ from the shell's own commands of the
same name in what they say about faults.
-/
namespace EngineTrials.Shell.Utility
open Text Shell.Action

/-- Options of `echo` in front of the words: whether a line end follows, and whether escapes count.
-/
def echoOptions : Bool → Bool → List ByteText → Bool × Bool × List ByteText
  | ends, escapes, [] => (ends, escapes, [])
  | ends, escapes, word :: rest =>
    match word with
    | '-' :: letters =>
      if !letters.isEmpty && letters.all fun c => ['n', 'e', 'E'].contains c then
        let escapes := letters.foldl (fun e c => if c == 'n' then e else c == 'e') escapes
        echoOptions (ends && !letters.contains 'n') escapes rest
      else (ends, escapes, word :: rest)
    | _ => (ends, escapes, word :: rest)

def echo : Program := fun arguments => do
  let (ends, escapes, words) := echoOptions true false arguments
  let text := glue [' '] words
  let (text, stopped) :=
    if escapes then Format.unescaped true (text.length + 1) text else (text, false)
  put (if ends && !stopped then text ++ ['\n'] else text)
  return 0

def printf : Program := fun arguments => do
  let arguments := match arguments with
    | ['-', '-'] :: rest => rest
    | rest => rest
  match arguments with
  | [] => missingOperand "printf"
  | format :: rest =>
    let printed := Format.print true format rest
    put printed.text
    for problem in printed.problems do
      complain (match problem with
        | .notNumber text => "printf: '" ++ textOf text ++ "': expected a numeric value\n"
        | .incomplete text => "printf: '" ++ textOf text ++ "': value not completely converted\n"
        | .missingDirective => "printf: %: invalid conversion specification\n"
        | .badDirective text => "printf: " ++ textOf text ++ ": invalid conversion specification\n")
    return if printed.problems.isEmpty then 0 else 1

def test (name : String) : Program := fun words => do
  match Condition.holds (← files) words with
  | .ok true => return 0
  | .ok false => return 1
  | .error problem =>
    complain (name ++ ": " ++ problem ++ "\n")
    return 2

def kill : Program := fun arguments => do
  let status ← Builtin.kill arguments
  return min status 1

/-- Sums, differences, products and comparisons of two operands. -/
def expr : Program := fun arguments => do
  let answer (n : Int) : Action Nat := do
    put (decimalText n ++ ['\n'])
    return if n = 0 then 1 else 0
  match arguments with
  | [text] =>
    put (text ++ ['\n'])
    return if text.isEmpty || text == ['0'] then 1 else 0
  | [left, op, right] =>
    match integer? left, integer? right, textOf op with
    | some a, some b, "+" => answer (a + b)
    | some a, some b, "-" => answer (a - b)
    | some a, some b, "*" => answer (a * b)
    | some a, some b, "/" =>
      if b = 0 then complain "expr: division by zero\n"; return 2 else answer (a.tdiv b)
    | some a, some b, "%" =>
      if b = 0 then complain "expr: division by zero\n"; return 2 else answer (a.tmod b)
    | some a, some b, "<" => answer (if a < b then 1 else 0)
    | some a, some b, "<=" => answer (if a ≤ b then 1 else 0)
    | some a, some b, ">" => answer (if b < a then 1 else 0)
    | some a, some b, ">=" => answer (if b ≤ a then 1 else 0)
    | _, _, "=" => answer (if left == right then 1 else 0)
    | _, _, "!=" => answer (if left == right then 0 else 1)
    | _, _, _ =>
      if (integer? left).isSome && (integer? right).isSome then complain "expr: syntax error\n"
      else complain "expr: non-integer argument\n"
      return 2
  | [] => missingOperand "expr"
  | _ =>
    complain "expr: syntax error\n"
    return 2

/-- Programs that need no shell to run. -/
def programs : List (String × Program) :=
  [("cat", cat), ("head", head), ("tail", tail), ("tee", tee), ("wc", wc), ("yes", yes),
    ("seq", seq), ("sleep", sleep), ("sort", sort), ("uniq", uniq), ("cut", cut), ("rev", rev),
    ("tr", tr), ("grep", grep), ("sed", sed), ("ls", ls), ("touch", touch), ("mkdir", mkdir),
    ("rm", rm), ("rmdir", rmdir), ("cp", transfer "cp" false), ("mv", transfer "mv" true),
    ("chmod", chmod), ("basename", basename), ("dirname", dirname), ("echo", echo),
    ("printf", printf), ("true", fun _ => return 0), ("false", fun _ => return 1),
    ("test", test "test"), ("[", fun words => test "[" words.dropLast), ("pwd", Builtin.pwd),
    ("kill", kill), ("expr", expr)]

/-- Programs that run other programs. -/
def shells : List String := ["sh", "dash", "env"]

/-- The directories that programs are looked for in. -/
def directories : List String := ["/usr/local/bin/", "/usr/bin/", "/bin/"]

/-- The name of a program that is given by its path. -/
def ofPath? (path : ByteText) : Option String :=
  (directories.findSome? fun d =>
    if d.toList.isPrefixOf path then some (textOf (path.drop d.length)) else none).filter fun n =>
      (programs.lookup n).isSome || shells.contains n

def isKnown (name : String) : Bool := (programs.lookup name).isSome || shells.contains name

end EngineTrials.Shell.Utility
