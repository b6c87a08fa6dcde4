import EngineTrials.Shell.Matching
import EngineTrials.Shell.Utility.Streams

/-!
# Programs that work on lines

`sort`, `uniq`, `cut`, `tr`, `rev`, `grep` and `sed`.
-/
namespace EngineTrials.Shell.Utility
open Text Shell.Action

/-- The number in front of a line, for numeric order. -/
def lineNumber (line : ByteText) : Int :=
  let cs := line.dropWhile fun c => c == ' ' || c == '\t'
  match cs with
  | '-' :: rest => -((natural? 10 (rest.takeWhile isDigit)).getD 0 : Nat)
  | cs => ((natural? 10 (cs.takeWhile isDigit)).getD 0 : Nat)

def sort : Program := fun arguments => do
  let (found, operands) := options [] arguments
  let has (letter : Char) : Bool := found.any fun (c, _) => c == letter
  let (text, status) ← allInput "sort" operands
  let le (a b : ByteText) : Bool :=
    if has 'n' && lineNumber a != lineNumber b then decide (lineNumber a < lineNumber b)
    else inByteOrder a b
  let lines := (linesOf text).mergeSort fun a b => if has 'r' then le b a else le a b
  let same (a b : ByteText) : Bool := if has 'n' then lineNumber a == lineNumber b else a == b
  let rec distinct : List ByteText → List ByteText
    | a :: b :: rest => if same a b then distinct (a :: rest) else a :: distinct (b :: rest)
    | lines => lines
  termination_by lines => lines.length
  put (unlines (if has 'u' then distinct lines else lines))
  return if status = 0 then 0 else 2

/-- Runs of equal lines with their lengths. -/
def runs : List ByteText → List (Nat × ByteText)
  | [] => []
  | line :: rest =>
    match runs rest with
    | (n, l) :: others => if l = line then (n + 1, l) :: others else (1, line) :: (n, l) :: others
    | [] => [(1, line)]

def uniq : Program := fun arguments => do
  let (found, operands) := options [] arguments
  let has (letter : Char) : Bool := found.any fun (c, _) => c == letter
  let (text, status) ← allInput "uniq" operands
  let kept := (runs (linesOf text)).filter fun (n, _) =>
    (!has 'd' || 1 < n) && (!has 'u' || n == 1)
  put (unlines (kept.map fun (n, line) =>
    if has 'c' then
      let digits := numeral 10 n
      List.replicate (7 - digits.length) ' ' ++ digits ++ ' ' :: line
    else line))
  return status

/-- Whether a position is in a list of ranges such as `1,3-5,7-`. -/
def inRanges (ranges : ByteText) (position : Nat) : Bool :=
  (pieces (· == ',') ranges).any fun range =>
    match pieces (· == '-') range with
    | [one] => natural? 10 one == some position
    | [first, last] =>
      decide ((natural? 10 first).getD 1 ≤ position) &&
        (last.isEmpty || decide (position ≤ (natural? 10 last).getD 0))
    | _ => false

/-- The elements at the positions of the ranges, counted from one. -/
def selected {α : Type} (ranges : ByteText) (xs : List α) : List α :=
  ((xs.zipIdx 1).filter fun (_, i) => inRanges ranges i).map Prod.fst

def cut : Program := fun arguments => do
  let (found, operands) := options ['d', 'f', 'c', 'b'] arguments
  let separator := ((found.lookup 'd').bind List.head?).getD '\t'
  let (text, status) ← allInput "cut" operands
  let onLine (line : ByteText) : Option ByteText :=
    match found.lookup 'f' with
    | some ranges =>
      if line.contains separator then
        some (glue [separator] (selected ranges (pieces (· == separator) line)))
      else if (found.lookup 's').isSome then none
      else some line
    | none => some (selected (((found.lookup 'c').orElse fun _ => found.lookup 'b').getD []) line)
  put (unlines ((linesOf text).filterMap onLine))
  return status

def rev : Program := fun arguments => do
  let (text, status) ← allInput "rev" (options [] arguments).2
  put (unlines ((linesOf text).map List.reverse))
  return status

/-- The characters of a set with ranges, escapes and classes. -/
def charSet : Nat → ByteText → ByteText
  | 0, _ => []
  | fuel + 1, cs =>
    match cs with
    | [] => []
    | '[' :: ':' :: rest =>
      let name := rest.takeWhile (· != ':')
      let all := (List.range 256).map Char.ofNat
      all.filter (Pattern.classMember (String.ofList name)) ++
        charSet fuel (rest.drop (name.length + 2))
    | '\\' :: rest =>
      let (here, after) := Format.escape false rest
      if after.length = rest.length then charSet fuel rest else here ++ charSet fuel after
    | a :: '-' :: b :: rest =>
      let range := (List.range (b.toNat + 1 - a.toNat)).map fun i => Char.ofNat (a.toNat + i)
      range ++ charSet fuel rest
    | c :: rest => c :: charSet fuel rest

/-- Runs of one of the characters become one of it. -/
def squeezed (set : ByteText) : ByteText → ByteText
  | a :: b :: rest =>
    if a = b ∧ set.contains a then squeezed set (b :: rest) else a :: squeezed set (b :: rest)
  | cs => cs

/-- The character that takes the place of another one; the last one of the second set stands for all
that are missing. -/
def translated (first second : ByteText) (c : Char) : Char :=
  match first.reverse.idxOf? c with
  | some i => second.getD (first.length - 1 - i) (second.getLast?.getD c)
  | none => c

def tr : Program := fun arguments => do
  let (found, operands) := options [] arguments
  let has (letter : Char) : Bool := found.any fun (c, _) => c == letter
  match operands.map fun o => charSet (o.length + 1) o with
  | [] =>
    complain "tr: missing operand\nTry 'tr --help' for more information.\n"
    return 1
  | first :: others =>
    let second := others.head?.getD []
    let first := if has 'c' || has 'C' then
        ((List.range 256).map Char.ofNat).filter fun c => !first.contains c
      else first
    if others.isEmpty && !has 'd' && !has 's' then
      complain ("tr: missing operand after '" ++ textOf (operands.head?.getD []) ++
        "'\nTwo strings must be given when translating.\nTry 'tr --help' for more information.\n")
      return 1
    let text ← readAll 0
    let text := if has 'd' then text.filter fun c => !first.contains c
      else if second.isEmpty then text
      else
        let table := ((List.range 256).map fun n => translated first second (Char.ofNat n)).toArray
        text.map fun c => table.getD c.toNat c
    put (if has 's' then squeezed (if second.isEmpty then first else second) text else text)
    return 0

/-- Whether an expression, or a text in place of one, occurs in a line. -/
def grep : Program := fun arguments => do
  let (found, operands) := options ['e', 'm'] arguments
  let has (letter : Char) : Bool := found.any fun (c, _) => c == letter
  let (pattern?, operands) := match found.lookup 'e', operands with
    | some e, operands => (some e, operands)
    | none, e :: rest => (some e, rest)
    | none, [] => (none, [])
  let escape (cs : ByteText) : ByteText :=
    cs.flatMap fun c => if "\\.*[]^$".toList.contains c then ['\\', c] else [c]
  let form : Matching.Notation := ⟨has 'E', has 'i'⟩
  match pattern?.bind fun e => Matching.read? form (if has 'F' then escape e else e) with
  | none =>
    complain "Usage: grep [OPTION]... PATTERNS [FILE]...\nTry 'grep --help' for more information.\n"
    return 2
  | some e =>
    let several := operands.length > 1
    let index ← addPipe {}
    let status ← eachInput "grep" operands fun name => do
      let lines := linesOf (← readAll 0)
      let selects (line : ByteText) : Bool :=
        let hit := match Matching.search (has 'i') e true [] line with
          | some f => !has 'x' || (f.before.isEmpty && f.after.isEmpty)
          | none => false
        hit != has 'v'
      let hits := (lines.zipIdx 1).filter fun (line, _) => selects line
      let lead := if several then name ++ [':'] else []
      let shown := if has 'q' then []
        else if has 'c' then lead ++ numeral 10 hits.length ++ ['\n']
        else hits.flatMap fun (line, n) =>
          lead ++ (if has 'n' then numeral 10 n ++ [':'] else []) ++ line ++ ['\n']
      put shown
      if !hits.isEmpty then setPipe index ((← pipeAt index).write 0 ['+'])
    return if !(← pipeAt index).written.isEmpty then 0 else if status = 0 then 1 else 2

/-- Which lines an edit is made on. -/
inductive Address
  | always
  | line (number : Nat)
  | lastLine
  | matching (e : Matching.Branches)

inductive Edit
  | substitute (e : Matching.Branches) (replacement : ByteText) (everywhere shown : Bool)
      (occurrence : Nat) (ignoresCase : Bool)
  | delete
  | print
  | quit

structure Instruction where
  first : Address
  last : Option Address := none
  negated : Bool := false
  edit : Edit

/-- The text up to a separator that no backslash stands before, and what follows. -/
def upTo (separator : Char) : ByteText → Option (ByteText × ByteText)
  | [] => none
  | '\\' :: c :: rest =>
    (upTo separator rest).map fun (text, after) =>
      (if c = separator then c :: text else '\\' :: c :: text, after)
  | c :: rest =>
    if c = separator then some ([], rest)
    else (upTo separator rest).map fun (text, after) => (c :: text, after)

def address? (n : Matching.Notation) : ByteText → Option (Address × ByteText)
  | '$' :: rest => some (.lastLine, rest)
  | '/' :: rest => do
    let (text, rest) ← upTo '/' rest
    return (.matching (← Matching.read? n text), rest)
  | cs =>
    let digits := cs.takeWhile isDigit
    (natural? 10 digits).map fun k => (.line k, cs.drop digits.length)

def edit? (n : Matching.Notation) : ByteText → Option (Edit × ByteText)
  | 'd' :: rest => some (.delete, rest)
  | 'p' :: rest => some (.print, rest)
  | 'q' :: rest => some (.quit, rest)
  | 's' :: separator :: rest => do
    let (pattern, rest) ← upTo separator rest
    let (replacement, rest) ← upTo separator rest
    let flags := rest.takeWhile fun c => c.isAlphanum
    let occurrence := (natural? 10 (flags.filter isDigit)).getD 1
    return (.substitute (← Matching.read? n pattern) replacement (flags.contains 'g')
      (flags.contains 'p') occurrence (flags.contains 'i' || flags.contains 'I'),
      rest.drop flags.length)
  | _ => none

def instructions? (n : Matching.Notation) : Nat → ByteText → Option (List Instruction)
  | 0, _ => none
  | fuel + 1, cs =>
    let isGap (c : Char) : Bool := c == ' ' || c == '\t' || c == '\n' || c == ';'
    match cs.dropWhile isGap with
    | [] => some []
    | cs => do
      let (first, rest) := (address? n cs).getD (.always, cs)
      let (last, rest) ← match rest with
        | ',' :: rest => (address? n rest).map fun (a, rest) => (some a, rest)
        | rest => some (none, rest)
      let rest := rest.dropWhile (· == ' ')
      let (negated, rest) := match rest with
        | '!' :: rest => (true, rest)
        | rest => (false, rest)
      let (edit, rest) ← edit? n rest
      return ⟨first, last, negated, edit⟩ :: (← instructions? n fuel rest)

/-- A replacement, where `&` and numbers after a backslash stand for what matched. -/
def replaced (f : Matching.Found) : ByteText → ByteText
  | [] => []
  | '&' :: rest => f.text ++ replaced f rest
  | '\\' :: c :: rest =>
    let here := match digit? 10 c with
      | some 0 => f.text
      | some d => (f.groups.lookup d).getD []
      | none => if c == 'n' then ['\n'] else if c == 't' then ['\t'] else [c]
    here ++ replaced f rest
  | c :: rest => c :: replaced f rest

/-- Replaces matches from one occurrence on; the new text and whether anything was replaced. Right
after a match an empty one does not count. -/
def substituted (e : Matching.Branches) (replacement : ByteText) (everywhere ignoresCase : Bool) :
    Nat → Nat → Bool → Bool → ByteText → ByteText × Bool
  | 0, _, _, _, cs => (cs, false)
  | fuel + 1, skip, atStart, afterMatch, cs =>
    match Matching.search ignoresCase e atStart [] cs with
    | none => (cs, false)
    | some f =>
      if afterMatch && f.before.isEmpty && f.text.isEmpty then
        match cs with
        | [] => ([], false)
        | c :: rest =>
          let (text, hit) :=
            substituted e replacement everywhere ignoresCase fuel skip false false rest
          (c :: text, hit)
      else
      let here := if skip = 0 then replaced f replacement else f.text
      let goesOn := everywhere || 0 < skip
      let (after, hit) :=
        if !goesOn then (f.after, false)
        else
          match f.text, f.after with
          | [], c :: rest =>
            let (text, hit) :=
              substituted e replacement everywhere ignoresCase fuel (skip - 1) false false rest
            (c :: text, hit)
          | [], [] => ([], false)
          | _, rest =>
            substituted e replacement everywhere ignoresCase fuel (skip - 1) false true rest
      (f.before ++ here ++ after, hit || skip = 0)

/-- What becomes of a line: the text, what is shown of it in between, and whether it is kept and
whether the editor goes on. -/
structure Edited where
  text : ByteText
  shown : List ByteText := []
  deleted : Bool := false
  quits : Bool := false

def addressHolds (number : Nat) (isLast : Bool) (text : ByteText) : Address → Bool
  | .always => true
  | .line n => n == number
  | .lastLine => isLast
  | .matching e => (Matching.search false e true [] text).isSome

/-- Whether a range of lines is open after this one. -/
def rangeStays (number : Nat) (isLast : Bool) (text : ByteText) (wasOpen : Bool) : Address → Bool
  | .line n => decide (number < n)
  | a => !wasOpen || !addressHolds number isLast text a

/-- Edits one line; `open?` tells which ranges are open. -/
def editLine (number : Nat) (isLast : Bool) :
    List (Instruction × Bool) → Edited → Edited × List Bool
  | [], e => (e, [])
  | (i, isOpen) :: rest, e =>
    if e.deleted || e.quits then (e, isOpen :: rest.map Prod.snd)
    else
      let (applies, staysOpen) := match i.last with
        | none => (addressHolds number isLast e.text i.first, false)
        | some last =>
          if isOpen then (true, rangeStays number isLast e.text true last)
          else if addressHolds number isLast e.text i.first then
            (true, rangeStays number isLast e.text false last)
          else (false, false)
      let e := if applies == i.negated then e
        else match i.edit with
        | .delete => { e with deleted := true }
        | .print => { e with shown := e.shown ++ [e.text] }
        | .quit => { e with quits := true }
        | .substitute x replacement everywhere shown occurrence ignoresCase =>
          let (text, hit) :=
            substituted x replacement everywhere ignoresCase (2 * e.text.length + 2)
            (occurrence - 1) true false e.text
          if hit then { e with text, shown := if shown then e.shown ++ [text] else e.shown } else e
      let (e, others) := editLine number isLast rest e
      (e, staysOpen :: others)

/-- Edits lines; a last line without an end stays without one. -/
def editLines (instructions : List Instruction) (quiet ended : Bool) :
    Nat → List Bool → List ByteText → List ByteText
  | _, _, [] => []
  | number, opened, line :: rest =>
    let isLast := rest.isEmpty
    let (e, opened) := editLine number isLast (instructions.zip opened) { text := line }
    let lines := e.shown ++ (if quiet || e.deleted then [] else [e.text])
    let finish : ByteText := if isLast && !ended then [] else ['\n']
    let greatest := lines.length - 1
    let here := (lines.zipIdx).map fun (l, i) => l ++ (if i < greatest then ['\n'] else finish)
    if e.quits then here else here ++ editLines instructions quiet ended (number + 1) opened rest

def sed : Program := fun arguments => do
  let (found, operands) := options ['e'] arguments
  let has (letter : Char) : Bool := found.any fun (c, _) => c == letter
  let given := found.filterMap fun (c, value) => if c == 'e' then some value else none
  let (scripts, operands) :=
    if given.isEmpty then (operands.take 1, operands.drop 1) else (given, operands)
  let script := glue ['\n'] scripts
  match instructions? ⟨has 'E' || has 'r', false⟩ (script.length + 1) script with
  | none =>
    complain "sed: -e expression #1, char 1: unknown command\n"
    return 1
  | some instructions =>
    let (text, status) ← allInput "sed" operands
    let ended := text.getLast? == some '\n'
    let opened := instructions.map fun _ => false
    put (editLines instructions (has 'n') ended 1 opened (linesOf text)).flatten
    return if status = 0 then 0 else 2

end EngineTrials.Shell.Utility
