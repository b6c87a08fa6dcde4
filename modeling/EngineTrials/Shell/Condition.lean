import EngineTrials.Shell.Machine

/-!
# Conditions

What `test` and `[` decide about files, texts and numbers.
-/
namespace EngineTrials.Shell.Condition
open Text

/-- A condition that is malformed, with what is said about it. -/
abbrev Verdict := Except String

def unaryOperators : List String :=
  ["-n", "-z", "-e", "-f", "-d", "-s", "-r", "-w", "-x", "-h", "-L", "-p", "-S", "-b", "-c", "-t"]

/-- A condition on one operand. -/
def unary (fs : FileSystem) (op : String) (operand : ByteText) : Bool :=
  let node? := fs.node? ⟨textOf operand⟩
  if op = "-n" then !operand.isEmpty
  else if op = "-z" then operand.isEmpty
  else if op = "-e" ∨ op = "-r" ∨ op = "-w" then node?.isSome
  else if op = "-f" then node?.any FileNode.isRegular
  else if op = "-d" then node?.any FileNode.isDirectory
  else if op = "-s" then
    match node? with
    | some (.file contents _) => !contents.isEmpty
    | some (.directory _) => true
    | _ => false
  else if op = "-x" then
    match node? with
    | some (.file _ executable) => executable
    | some (.directory _) => true
    | _ => false
  else if op = "-c" then node?.any fun n => !n.isRegular && !n.isDirectory
  else false

def integer (text : ByteText) : Verdict Int :=
  let cs := trimBlank text
  let value := match cs with
    | '-' :: digits => (natural? 10 digits).map fun n => -(n : Int)
    | '+' :: digits => (natural? 10 digits).map Int.ofNat
    | digits => (natural? 10 digits).map Int.ofNat
  match value with
  | some n => .ok n
  | none => .error ("Illegal number: " ++ textOf text)

def comparison? (op : String) : Option (Int → Int → Bool) :=
  [("-eq", fun (a b : Int) => a == b), ("-ne", fun a b => a != b),
    ("-lt", fun a b => decide (a < b)),
    ("-le", fun a b => decide (a ≤ b)), ("-gt", fun a b => decide (b < a)),
    ("-ge", fun a b => decide (b ≤ a))].lookup op

def isBinary (op : String) : Bool :=
  op = "=" || op = "==" || op = "!=" || op = "<" || op = ">" || (comparison? op).isSome

def binary (left : ByteText) (op : String) (right : ByteText) : Verdict Bool :=
  match comparison? op with
  | some compare => do return compare (← integer left) (← integer right)
  | none =>
    if op = "!=" then .ok (left != right)
    else if op = "<" then .ok (decide (left < right))
    else if op = ">" then .ok (decide (right < left))
    else .ok (left == right)

abbrev Parsed := Verdict (Bool × List ByteText)

section

variable (fs : FileSystem)

mutual

def either : Nat → List ByteText → Parsed
  | 0, _ => .error "too many arguments"
  | fuel + 1, words => do
    let (a, rest) ← both fuel words
    match rest with
    | ['-', 'o'] :: rest =>
      let (b, rest) ← either fuel rest
      return (a || b, rest)
    | rest => return (a, rest)

def both : Nat → List ByteText → Parsed
  | 0, _ => .error "too many arguments"
  | fuel + 1, words => do
    let (a, rest) ← negation fuel words
    match rest with
    | ['-', 'a'] :: rest =>
      let (b, rest) ← both fuel rest
      return (a && b, rest)
    | rest => return (a, rest)

def negation : Nat → List ByteText → Parsed
  | 0, _ => .error "too many arguments"
  | fuel + 1, words =>
    match words with
    | ['!'] :: next :: rest => do
      if isBinary (textOf next) && rest.length == 1 then primary fuel words
      else
        let (a, rest) ← negation fuel (next :: rest)
        return (!a, rest)
    | words => primary fuel words

def primary : Nat → List ByteText → Parsed
  | 0, _ => .error "too many arguments"
  | fuel + 1, words =>
    match words with
    | [] => .ok (false, [])
    | [text] => .ok (!text.isEmpty, [])
    | left :: op :: rest =>
      match rest with
      | right :: more =>
        if isBinary (textOf op) then do return (← binary left (textOf op) right, more)
        else if left == ['('] then do
          let (a, rest) ← either fuel (op :: rest)
          match rest with
          | [')'] :: rest => return (a, rest)
          | _ => .error "closing paren expected"
        else if unaryOperators.contains (textOf left) then .ok (unary fs (textOf left) op, rest)
        else .ok (!left.isEmpty, op :: rest)
      | [] =>
        if isBinary (textOf op) then .error (textOf op ++ ": argument expected")
        else if left == ['('] then .error "closing paren expected"
        else if unaryOperators.contains (textOf left) then .ok (unary fs (textOf left) op, [])
        else .ok (!left.isEmpty, [op])

end

/-- Whether the condition that the words state holds. -/
def holds (words : List ByteText) : Verdict Bool :=
  if words.isEmpty then .ok false
  else
    match either fs (8 * words.length + 8) words with
    | .error e => .error e
    | .ok (a, []) => .ok a
    | .ok (_, rest) =>
      let last := words.getD (words.length - rest.length - 1) []
      .error (textOf last ++ ": unexpected operator")

end

end EngineTrials.Shell.Condition
