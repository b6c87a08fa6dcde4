import EngineTrials.Shell.Command

/-!
# Reading words

A word goes on until a blank, a line end or an operator; quotes, backslashes and expansions within
it decide which of these count. The commands within a substitution are read by a reader that is
given.
-/
namespace EngineTrials.Shell.Reading

/-- What is left of a script, and the line it begins in. -/
structure Cursor where
  rest : ByteText
  line : Nat := 1

abbrev Reader := StateT Cursor (Except SyntaxFault)

def refuse {α : Type} (message : String) : Reader α := fun c => .error ⟨c.line, message⟩

/-- Characters that end a word where they are not quoted. -/
def isMeta (c : Char) : Bool :=
  [' ', '\t', '\n', ';', '&', '|', '<', '>', '(', ')'].contains c

/-- The text up to the next character that could end a word. -/
def bareToken (cs : ByteText) : String :=
  String.ofList (cs.takeWhile fun c => !isMeta c)

/-- Words that begin, divide or end compound commands. -/
def openers : List String := ["if", "while", "until", "for", "case", "\x7b"]

def closers : List String := ["then", "else", "elif", "fi", "do", "done", "esac", "\x7d"]

/-- The name of what stands at the front of a text. -/
def tokenName (cs : ByteText) : String :=
  match cs with
  | [] => "end of file"
  | '\n' :: _ => "newline"
  | '<' :: _ | '>' :: _ => "redirection"
  | a :: rest =>
    if isMeta a then
      let doubled := rest.head? == some a && (a == ';' || a == '&' || a == '|')
      "\"" ++ String.ofList (if doubled then [a, a] else [a]) ++ "\""
    else
      let token := bareToken cs
      if openers.contains token || closers.contains token then "\"" ++ token ++ "\"" else "word"

/-- Refuses what stands here. -/
def unexpected {α : Type} (expected : Option String) : Reader α := do
  let expecting := match expected with
    | some e => " (expecting \"" ++ e ++ "\")"
    | none => ""
  refuse ("Syntax error: " ++ tokenName (← get).rest ++ " unexpected" ++ expecting)

/-- Passes characters. -/
def pass (n : Nat) : Reader Unit := do
  let c ← get
  let passed := c.rest.take n
  set { c with rest := c.rest.drop n, line := c.line + passed.count '\n' }

/-- Takes the characters in front that satisfy `p`. -/
def takeWhile (p : Char → Bool) : Reader ByteText := do
  let taken := (← get).rest.takeWhile p
  pass taken.length
  return taken

/-- Passes one character that has to stand here. -/
def expectChar (c : Char) : Reader Unit := do
  if (← get).rest.head? == some c then pass 1 else unexpected (some (String.singleton c))

/-- Reads another text in place of this one, and then goes on here. -/
def within {α : Type} (text : ByteText) (reader : Reader α) : Reader α := do
  let c ← get
  set { c with rest := text }
  let a ← reader
  set c
  return a

/-- What surrounds the part of a word that is read. -/
inductive Setting
  | plain
  | quoted
  /-- Up to a closing brace. -/
  | braced (quoted : Bool)
  /-- Up to two closing parentheses, with so many single ones open. -/
  | arithmetic (opened : Nat)
  /-- To the end of a here-document. -/
  | document
deriving DecidableEq

namespace Setting

def isQuoted : Setting → Bool
  | plain | braced false => false
  | _ => true

/-- Whether a backslash keeps this character from its special meaning and disappears. -/
def escapes (s : Setting) (c : Char) : Bool :=
  match s with
  | plain | braced false => true
  | quoted => ['$', '`', '"', '\\'].contains c
  | braced true => ['$', '`', '"', '\\', '\x7d'].contains c
  | arithmetic _ | document => ['$', '`', '\\'].contains c

/-- Whether the part ends before this text. -/
def endsAt (s : Setting) (cs : ByteText) : Bool :=
  match s with
  | plain => cs.head?.all isMeta
  | quoted => cs.head? == some '"'
  | braced _ => cs.head? == some '\x7d'
  | arithmetic 0 => cs.take 2 == [')', ')']
  | arithmetic _ => false
  | document => cs.isEmpty

/-- What is wrong if the script ends within the part. -/
def unclosed : Setting → String
  | plain | document => ""
  | quoted => "Syntax error: Unterminated quoted string"
  | braced _ => "Syntax error: Missing '\x7d'"
  | arithmetic _ => "Syntax error: Missing '))'"

/-- The setting after a character. -/
def after (s : Setting) (c : Char) : Setting :=
  match s, c with
  | arithmetic n, '(' => arithmetic (n + 1)
  | arithmetic n, ')' => arithmetic (n - 1)
  | s, _ => s

end Setting

/-- Parameters named by one character. -/
def isSpecialName (c : Char) : Bool :=
  ['@', '*', '#', '?', '$', '!', '-'].contains c

/-- The name of a parameter between braces. -/
def bracedName : Reader ByteText := do
  match (← get).rest with
  | c :: _ =>
    if isNameStart c then takeWhile isNamePart
    else if '0' ≤ c ∧ c ≤ '9' then takeWhile fun d => '0' ≤ d && d ≤ '9'
    else if isSpecialName c then do pass 1; return [c]
    else refuse "Bad substitution"
  | [] => refuse (Setting.braced false).unclosed

/-- The operator between a name and a word, and whether a colon stands before it. -/
def modifier : Reader (Modifier × Bool) := do
  let some : Nat → Modifier → Bool → Reader (Modifier × Bool) := fun n m colon => do
    pass n
    return (m, colon)
  match (← get).rest with
  | ':' :: '-' :: _ => some 2 .fallback true
  | ':' :: '=' :: _ => some 2 .assign true
  | ':' :: '?' :: _ => some 2 .demand true
  | ':' :: '+' :: _ => some 2 .replace true
  | '-' :: _ => some 1 .fallback false
  | '=' :: _ => some 1 .assign false
  | '?' :: _ => some 1 .demand false
  | '+' :: _ => some 1 .replace false
  | '#' :: '#' :: _ => some 2 (.dropFront true) false
  | '#' :: _ => some 1 (.dropFront false) false
  | '%' :: '%' :: _ => some 2 (.dropBack true) false
  | '%' :: _ => some 1 (.dropBack false) false
  | ':' :: '\x7d' :: _ | [] => refuse (Setting.braced false).unclosed
  | _ => refuse "Bad substitution"

/-- Patterns keep their own quoting, also within quotes. -/
def Modifier.setting (m : Modifier) (quoted : Bool) : Setting :=
  match m with
  | .dropFront _ | .dropBack _ => .braced false
  | _ => .braced quoted

/-- The text between backquotes and what follows it. A backslash before a backslash, a dollar or a
backquote disappears. -/
def backquoted : ByteText → Option (ByteText × ByteText)
  | [] => none
  | '`' :: rest => some ([], rest)
  | '\\' :: c :: rest =>
    (backquoted rest).map fun (text, after) =>
      (if c == '\\' || c == '$' || c == '`' then c :: text else '\\' :: c :: text, after)
  | c :: rest => (backquoted rest).map fun (text, after) => (c :: text, after)

section

variable (commands : Reader (List Command))

mutual

/-- The parts of a word up to the end that its setting asks for. -/
def pieces : Nat → Setting → Reader (List Piece)
  | 0, _ => refuse "Syntax error: word too long"
  | fuel + 1, setting => do
    let c ← get
    if setting.endsAt c.rest then return []
    else
      match c.rest with
      | [] => refuse setting.unclosed
      | first :: _ =>
        let here ← piece fuel setting first
        return here ++ (← pieces fuel (setting.after first))

/-- The part that begins with the character that stands here. -/
def piece : Nat → Setting → Char → Reader (List Piece)
  | 0, _, _ => refuse "Syntax error: word too long"
  | fuel + 1, setting, first => do
    pass 1
    let quoted := setting.isQuoted
    let here : List Piece := [.literal [first] quoted]
    if first == '\\' then
      match (← get).rest with
      | '\n' :: _ => do pass 1; return []
      | c :: _ =>
        if setting.escapes c then do pass 1; return [.literal [c] true]
        else return here
      | [] => return here
    else if first == '$' then dollar fuel quoted
    else if first == '`' then
      match backquoted (← get).rest with
      | none => refuse "Syntax error: EOF in backquote substitution"
      | some (text, after) =>
        let body ← within text commands
        pass ((← get).rest.length - after.length)
        return [.substitution body quoted]
    else if first == '\'' && !quoted then
      let text ← takeWhile (· != '\'')
      if (← get).rest.isEmpty then refuse Setting.quoted.unclosed
      pass 1
      return [.literal text true]
    else if first == '"' && setting != .document then
      let inner ← pieces fuel .quoted
      pass 1
      return if inner.isEmpty then [.literal [] true] else inner
    else return here

/-- What a dollar sign begins. -/
def dollar : Nat → Bool → Reader (List Piece)
  | 0, _ => refuse "Syntax error: word too long"
  | fuel + 1, quoted => do
    match (← get).rest with
    | '(' :: '(' :: _ =>
      pass 2
      let inner ← pieces fuel (.arithmetic 0)
      pass 2
      return [.arithmetic inner quoted]
    | '(' :: _ =>
      pass 1
      let body ← commands
      expectChar ')'
      return [.substitution body quoted]
    | '\x7b' :: '#' :: c :: _ =>
      if c == '\x7d' then do pass 3; return [.parameter ['#'] quoted]
      else
        pass 2
        let name ← bracedName
        expectChar '\x7d'
        return [.length name quoted]
    | '\x7b' :: _ =>
      pass 1
      let name ← bracedName
      if (← get).rest.head? == some '\x7d' then do pass 1; return [.parameter name quoted]
      else
        let (m, colon) ← modifier
        let word ← pieces fuel (Modifier.setting m quoted)
        pass 1
        return [.modified name m colon word quoted]
    | c :: _ =>
      if isNameStart c then return [.parameter (← takeWhile isNamePart) quoted]
      else if isSpecialName c || ('0' ≤ c && c ≤ '9') then do pass 1; return [.parameter [c] quoted]
      else return [.literal ['$'] quoted]
    | [] => return [.literal ['$'] quoted]

end

/-- The parts of a word within this setting. -/
def wordIn (setting : Setting) : Reader Word := do
  pieces commands (4 * (← get).rest.length + 4) setting

end

end EngineTrials.Shell.Reading
