import EngineTrials.Shell.Reading.Word
import EngineTrials.Text.Pieces

/-!
# Reading commands

Lists of commands, from pipelines over simple and compound commands down to words and redirections.
A script is read line by line, so that what comes before a fault can still be run.
-/
namespace EngineTrials.Shell.Reading
open Text

/-- The text after blanks, joined lines and a comment. -/
def afterBlanks : ByteText → ByteText
  | ' ' :: rest | '\t' :: rest => afterBlanks rest
  | '\\' :: '\n' :: rest => afterBlanks rest
  | '#' :: rest => rest.dropWhile (· != '\n')
  | cs => cs

def skipBlanks : Reader Unit := do
  let c ← get
  pass (c.rest.length - (afterBlanks c.rest).length)

/-- The text after blanks, comments and line ends; `fuel` bounds the number of lines. -/
def afterGaps : Nat → ByteText → ByteText
  | 0, cs => cs
  | fuel + 1, cs =>
    match afterBlanks cs with
    | '\n' :: rest => afterGaps fuel rest
    | cs => cs

def skipGaps : Reader Unit := do
  let c ← get
  pass (c.rest.length - (afterGaps (c.rest.length + 1) c.rest).length)

def expectWord (word : String) : Reader Unit := do
  skipGaps
  if bareToken (← get).rest = word then pass word.length else unexpected (some word)

/-- The lines up to the one that closes a here-document, and those after it. The last line of a
script has no end. -/
def documentLines (dropsTabs : Bool) (closing : ByteText) :
    List ByteText → ByteText × List ByteText
  | [] => ([], [])
  | line :: rest =>
    let line := if dropsTabs then line.dropWhile (· == '\t') else line
    if line = closing then ([], rest)
    else if rest.isEmpty then (line, [])
    else
      let (body, after) := documentLines dropsTabs closing rest
      (line ++ '\n' :: body, after)

/-- The text of a word whose expansions do not count, and whether any of it is quoted. -/
def delimiter (w : Word) : ByteText × Bool :=
  w.foldr (fun p (text, quoted) =>
    match p with
    | .literal t q => (t ++ text, q || quoted)
    | _ => (text, quoted)) ([], false)

section

variable (commands : Reader (List Command))

/-- The body of a here-document, which begins after the line that is read. -/
def hereDocument (descriptor : Nat) (dropsTabs : Bool) (word : Word) : Reader Redirection := do
  let (closing, quoted) := delimiter word
  let c ← get
  let (line, after) := (c.rest.takeWhile (· != '\n'), c.rest.dropWhile (· != '\n'))
  let (text, rest) := documentLines dropsTabs closing (lines (after.drop 1))
  set { c with rest := line ++ '\n' :: glue ['\n'] rest }
  if quoted then return .hereDocument descriptor [.literal text true]
  else return .hereDocument descriptor (← within text (wordIn commands .document))

/-- A redirection, if one stands here. -/
def redirection? : Reader (Option Redirection) := do
  let c ← get
  let digits := c.rest.takeWhile fun d => '0' ≤ d && d ≤ '9'
  let descriptor (fallback : Nat) : Nat :=
    if digits.isEmpty then fallback else (digits.foldl (fun n d => 10 * n + (d.toNat - 48)) 0)
  let target (n : Nat) : Reader Word := do
    pass (digits.length + n)
    skipBlanks
    if (← get).rest.head?.all isMeta then unexpected none
    wordIn commands .plain
  match c.rest.drop digits.length with
  | '>' :: '>' :: _ => return some (.append (descriptor 1) (← target 2))
  | '>' :: '&' :: _ => return some (.duplicate (descriptor 1) (← target 2))
  | '>' :: '|' :: _ => return some (.output (descriptor 1) (← target 2))
  | '>' :: _ => return some (.output (descriptor 1) (← target 1))
  | '<' :: '<' :: '-' :: _ => return some (← hereDocument commands (descriptor 0) true (← target 3))
  | '<' :: '<' :: _ => return some (← hereDocument commands (descriptor 0) false (← target 2))
  | '<' :: '&' :: _ => return some (.duplicate (descriptor 0) (← target 2))
  | '<' :: '>' :: _ => return some (.input (descriptor 0) (← target 2))
  | '<' :: _ => return some (.input (descriptor 0) (← target 1))
  | _ => return none

/-- The redirections that follow a compound command. -/
def redirections : Nat → Reader (List Redirection)
  | 0 => return []
  | fuel + 1 => do
    skipBlanks
    match ← redirection? commands with
    | some r => return r :: (← redirections fuel)
    | none => return []

/-- A word that sets a variable: its name, and the word of the value. -/
def assignment? (w : Word) : Option (ByteText × Word) :=
  let rec split (name : ByteText) : Word → Option (ByteText × Word)
    | .literal ['='] false :: value => if isName name then some (name, value) else none
    | .literal [c] false :: rest => split (name ++ [c]) rest
    | _ => none
  split [] w

/-- Assignments, words and redirections in any order, as far as they go. -/
def simple (line : Nat) : Nat → List (ByteText × Word) → List Word → List Redirection →
    Reader Command
  | 0, _, _, _ => refuse "Syntax error: command too long"
  | fuel + 1, assignments, words, targets => do
    skipBlanks
    match ← redirection? commands with
    | some r => simple line fuel assignments words (r :: targets)
    | none =>
      if (← get).rest.head?.all isMeta then
        return .simple line assignments.reverse words.reverse targets.reverse
      let word ← wordIn commands .plain
      match if words.isEmpty then assignment? word else none with
      | some a => simple line fuel (a :: assignments) words targets
      | none => simple line fuel assignments (word :: words) targets

/-- Words up to the end of the command. -/
def wordList : Nat → Reader (List Word)
  | 0 => return []
  | fuel + 1 => do
    skipBlanks
    if (← get).rest.head?.all isMeta then return []
    let word ← wordIn commands .plain
    return word :: (← wordList fuel)

/-- The patterns of an arm, up to the parenthesis after them. -/
def patterns : Nat → Reader (List Word)
  | 0 => return []
  | fuel + 1 => do
    skipBlanks
    if (← get).rest.isEmpty then unexpected (some ")")
    if (← get).rest.head?.all isMeta then unexpected none
    let word ← wordIn commands .plain
    skipBlanks
    match (← get).rest with
    | '|' :: _ => do pass 1; return word :: (← patterns fuel)
    | ')' :: _ => do pass 1; return [word]
    | _ => unexpected (some ")")

end

/-- Whether a list of commands ends here. -/
def atListEnd (cs : ByteText) : Bool :=
  cs.isEmpty || cs.head? == some ')' || cs.take 2 == [';', ';'] || closers.contains (bareToken cs)

/-- Whether a name and an empty pair of parentheses stand here; the length of the name, and of all.
-/
def functionHead? (cs : ByteText) : Option (Nat × Nat) :=
  let name := cs.takeWhile fun c => !isMeta c
  let isGap (c : Char) : Bool := c == ' ' || c == '\t'
  match (cs.drop name.length).dropWhile isGap with
  | '(' :: rest =>
    match rest.dropWhile isGap with
    | ')' :: after => if isName name then some (name.length, cs.length - after.length) else none
    | _ => none
  | _ => none

mutual

/-- Commands up to the end of the list or, if asked for, of the line. -/
def list : Nat → Bool → Reader (List Command)
  | 0, _ => refuse "Syntax error: nested too deeply"
  | fuel + 1, oneLine => do
    if oneLine then skipBlanks else skipGaps
    let c ← get
    if atListEnd c.rest || (oneLine && c.rest.head? == some '\n') then return []
    let first ← andOr fuel
    skipBlanks
    match (← get).rest with
    | ';' :: ';' :: _ => return [first]
    | ';' :: _ => do pass 1; return first :: (← list fuel oneLine)
    | '&' :: _ => do pass 1; return .background first :: (← list fuel oneLine)
    | '\n' :: _ => if oneLine then return [first] else return first :: (← list fuel oneLine)
    | _ => return [first]

/-- A list that may not be empty. At the end of the script what is missing is what should follow
it. -/
def body : Nat → Reader (List Command)
  | 0 => refuse "Syntax error: nested too deeply"
  | fuel + 1 => do
    let commands ← list fuel false
    if commands.isEmpty && !(← get).rest.isEmpty then unexpected none
    return commands

def andOr : Nat → Reader Command
  | 0 => refuse "Syntax error: nested too deeply"
  | fuel + 1 => do
    let first ← pipeline fuel
    andOrRest fuel first

def andOrRest : Nat → Command → Reader Command
  | 0, _ => refuse "Syntax error: nested too deeply"
  | fuel + 1, first => do
    skipBlanks
    match (← get).rest with
    | '&' :: '&' :: _ => do
      pass 2
      skipGaps
      andOrRest fuel (.both first (← pipeline fuel))
    | '|' :: '|' :: _ => do
      pass 2
      skipGaps
      andOrRest fuel (.either first (← pipeline fuel))
    | _ => return first

def pipeline : Nat → Reader Command
  | 0 => refuse "Syntax error: nested too deeply"
  | fuel + 1 => do
    skipBlanks
    if bareToken (← get).rest = "!" then
      pass 1
      return .negated (← pipeline fuel)
    match ← pipelineParts fuel with
    | [part] => return part
    | parts => return .pipeline parts

def pipelineParts : Nat → Reader (List Command)
  | 0 => refuse "Syntax error: nested too deeply"
  | fuel + 1 => do
    let first ← command fuel
    skipBlanks
    match (← get).rest with
    | '|' :: '|' :: _ => return [first]
    | '|' :: _ => do
      pass 1
      skipGaps
      return first :: (← pipelineParts fuel)
    | _ => return [first]

/-- One simple or compound command with its redirections. -/
def command : Nat → Reader Command
  | 0 => refuse "Syntax error: nested too deeply"
  | fuel + 1 => do
    skipBlanks
    let c ← get
    let token := bareToken c.rest
    if c.rest.head? == some '(' || openers.contains token then
      let inner ← compound fuel token
      match ← redirections (list fuel false) (c.rest.length + 1) with
      | [] => return inner
      | targets => return .redirected inner c.line targets
    else if (c.rest.head?.all fun d => isMeta d && d != '<' && d != '>') ||
        closers.contains token then
      unexpected none
    else
      match functionHead? c.rest with
      | some (length, all) =>
        pass all
        skipGaps
        return .function (c.rest.take length) (← command fuel)
      | none => simple (list fuel false) c.line (c.rest.length + 2) [] [] []

/-- The compound command that begins with this word, or with a parenthesis. -/
def compound : Nat → String → Reader Command
  | 0, _ => refuse "Syntax error: nested too deeply"
  | fuel + 1, token => do
    if token.isEmpty then
      pass 1
      let inner ← body fuel
      expectChar ')'
      return .subshell inner
    pass token.length
    if token = "if" then conditional fuel
    else if token = "while" ∨ token = "until" then
      let test ← body fuel
      expectWord "do"
      let inner ← body fuel
      expectWord "done"
      return .loop (token == "until") test inner
    else if token = "for" then
      skipBlanks
      let name ← takeWhile fun c => !isMeta c
      if !isName name then refuse "Syntax error: Bad for loop variable"
      skipGaps
      let words ←
        if bareToken (← get).rest = "in" then do
          pass 2
          let words ← wordList (list fuel false) ((← get).rest.length + 1)
          skipBlanks
          if (← get).rest.head?.all fun c => c != ';' && c != '\n' then unexpected none
          pure (some words)
        else pure none
      skipBlanks
      if (← get).rest.head? == some ';' then pass 1
      expectWord "do"
      let inner ← body fuel
      expectWord "done"
      return .each name words inner
    else if token = "case" then
      skipBlanks
      if (← get).rest.head?.all isMeta then
        refuse ("Syntax error: " ++ tokenName (← get).rest ++ " unexpected (expecting word)")
      let subject ← wordIn (list fuel false) .plain
      expectWord "in"
      let choices ← arms fuel
      expectWord "esac"
      return .choice subject choices
    else
      let inner ← body fuel
      expectWord "\x7d"
      return .group inner

/-- What follows `if` or `elif`, with the word that closes it. -/
def conditional : Nat → Reader Command
  | 0 => refuse "Syntax error: nested too deeply"
  | fuel + 1 => do
    let test ← body fuel
    expectWord "then"
    let accepted ← body fuel
    skipGaps
    let token := bareToken (← get).rest
    if token = "elif" then
      pass 4
      return .conditional test accepted [← conditional fuel]
    else if token = "else" then
      pass 4
      let refused ← body fuel
      expectWord "fi"
      return .conditional test accepted refused
    else
      expectWord "fi"
      return .conditional test accepted []

def arms : Nat → Reader (List (List Word × List Command))
  | 0 => refuse "Syntax error: nested too deeply"
  | fuel + 1 => do
    skipGaps
    if bareToken (← get).rest = "esac" then return []
    if (← get).rest.head? == some '(' then pass 1
    let words ← patterns (list fuel false) ((← get).rest.length + 1)
    let commands ← list fuel false
    skipGaps
    if (← get).rest.take 2 == [';', ';'] then
      pass 2
      return (words, commands) :: (← arms fuel)
    else return [(words, commands)]

end

/-- Depth and length of what can be nested in a text. -/
def depthOf (text : ByteText) : Nat := 16 * text.length + 64

/-- The lines of a script from here on; `fuel` bounds their number. -/
def scriptFrom : Nat → Cursor → Script
  | 0, _ => ⟨[], none⟩
  | fuel + 1, c =>
    let readLine : Reader (Option (List Command)) := do
      skipGaps
      if (← get).rest.isEmpty then return none
      let commands ← list (depthOf c.rest) true
      if (← get).rest.head?.all (· == '\n') then return some commands else unexpected none
    match readLine.run c with
    | .error fault => ⟨[], some fault⟩
    | .ok (none, _) => ⟨[], none⟩
    | .ok (some commands, c) =>
      let rest := scriptFrom fuel c
      ⟨commands ++ rest.commands, rest.fault⟩

/-- The commands of a text whose first line has this number. -/
def script (text : ByteText) (line : Nat) : Script :=
  scriptFrom (text.length + 1) { rest := text, line }

end EngineTrials.Shell.Reading
