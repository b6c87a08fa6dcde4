import EngineTrials.Shell.Machine

/-!
# Echoed and formatted text

The escapes of `echo` and the directives of `printf`. A format is used again and again until all
arguments are used up.
-/
namespace EngineTrials.Shell.Format
open Text

def isOctal (c : Char) : Bool := '0' ≤ c && c ≤ '7'

/-- At most `n` octal digits as one byte, and what follows them. -/
def octalByte (n : Nat) (cs : ByteText) : Char × ByteText :=
  let digits := (cs.take n).takeWhile isOctal
  let value := digits.foldl (fun v d => 8 * v + (d.toNat - 48)) 0
  (Char.ofNat (value % 256), cs.drop digits.length)

/-- The character that a letter after a backslash stands for. -/
def simpleEscape? (c : Char) : Option Char :=
  [('a', '\x07'), ('b', '\x08'), ('f', '\x0c'), ('n', '\n'), ('r', '\x0d'), ('t', '\t'),
    ('e', '\x1b'), ('v', '\x0b'), ('\\', '\\')].lookup c

/-- At most two hexadecimal digits as one byte, and what follows them. -/
def hexByte (cs : ByteText) : Char × ByteText :=
  let digits := (cs.take 2).takeWhile fun c => (digit? 16 c).isSome
  (Char.ofNat ((natural? 16 digits).getD 0), cs.drop digits.length)

/-- What a backslash and the text after it stand for, and what follows. A backslash before anything
else stands for itself. The programs know more escapes than the shell itself (`wide`). -/
def escape (wide : Bool) (cs : ByteText) : ByteText × ByteText :=
  match cs with
  | [] => (['\\'], [])
  | c :: rest =>
    match simpleEscape? c with
    | some e => ([e], rest)
    | none =>
      if isOctal c then
        let (b, rest) := octalByte 3 cs
        ([b], rest)
      else if wide && c == '"' then ([c], rest)
      else if wide && c == 'x' && rest.head?.any fun d => (digit? 16 d).isSome then
        let (b, rest) := hexByte rest
        ([b], rest)
      else (['\\'], cs)

/-- A text with its escapes replaced, and whether `\c` ended it. `fuel` bounds its length. -/
def unescaped (wide : Bool) : Nat → ByteText → ByteText × Bool
  | 0, cs => (cs, false)
  | fuel + 1, cs =>
    match cs with
    | [] => ([], false)
    | '\\' :: 'c' :: _ => ([], true)
    | '\\' :: '0' :: rest =>
      let (b, rest) := octalByte 3 rest
      let (text, stopped) := unescaped wide fuel rest
      (b :: text, stopped)
    | '\\' :: rest =>
      let (here, rest) := escape wide rest
      let (text, stopped) := unescaped wide fuel rest
      (here ++ text, stopped)
    | c :: rest =>
      let (text, stopped) := unescaped wide fuel rest
      (c :: text, stopped)

/-- What the shell's own `echo` writes. -/
def echo (arguments : List ByteText) : ByteText :=
  let (ends, words) := match arguments with
    | ['-', 'n'] :: rest => (false, rest)
    | words => (true, words)
  let joined := glue [' '] words
  let (text, stopped) := unescaped false (joined.length + 1) joined
  if ends && !stopped then text ++ ['\n'] else text

/-- How a value is laid out. -/
structure Layout where
  left : Bool := false
  plus : Bool := false
  blank : Bool := false
  zeros : Bool := false
  alternate : Bool := false
  width : Nat := 0
  precision : Option Nat := none

namespace Layout

def pad (l : Layout) (text : ByteText) : ByteText :=
  let fill := List.replicate (l.width - text.length) ' '
  if l.left then text ++ fill else fill ++ text

/-- A sign and digits, filled up with zeros or blanks. -/
def number (l : Layout) (sign digits : ByteText) : ByteText :=
  let digits := match l.precision with
    | some p => List.replicate (p - digits.length) '0' ++ digits
    | none => digits
  if l.zeros && !l.left && l.precision.isNone then
    sign ++ List.replicate (l.width - sign.length - digits.length) '0' ++ digits
  else l.pad (sign ++ digits)

def signOf (l : Layout) (negative : Bool) : ByteText :=
  if negative then ['-'] else if l.plus then ['+'] else if l.blank then [' '] else []

end Layout

/-- What is wrong with an argument or a directive. -/
inductive Problem
  | notNumber (text : ByteText)
  | incomplete (text : ByteText)
  | badDirective (text : ByteText)
  /-- A format that ends within a directive. -/
  | missingDirective
deriving DecidableEq, Inhabited

/-- The number in front of a text, in the notation of its beginning. -/
def number (text : ByteText) : Int × List Problem :=
  let cs := text.dropWhile fun c => c == ' ' || c == '\t' || c == '\n'
  match cs with
  | '\'' :: c :: _ | '"' :: c :: _ => (c.toNat, [])
  | _ =>
    let (negative, cs) := match cs with
      | '-' :: rest => (true, rest)
      | '+' :: rest => (false, rest)
      | cs => (false, cs)
    let (radix, digits) := match cs with
      | '0' :: 'x' :: rest | '0' :: 'X' :: rest => (16, rest)
      | '0' :: _ => (8, cs)
      | _ => (10, cs)
    let front := digits.takeWhile fun c => (digit? radix c).isSome
    let value : Int := ((natural? radix front).getD 0 : Nat)
    let problems :=
      if text.isEmpty then [] else
      if front.isEmpty then [.notNumber text]
      else if front.length < digits.length then [.incomplete text]
      else []
    (if negative then -value else value, problems)

/-- A decimal fraction as numerator and denominator. -/
def fraction (text : ByteText) : Bool × Nat × Nat × List Problem :=
  let (negative, cs) := match text with
    | '-' :: rest => (true, rest)
    | '+' :: rest => (false, rest)
    | cs => (false, cs)
  let whole := cs.takeWhile isDigit
  let (part, rest) := match cs.drop whole.length with
    | '.' :: rest => (rest.takeWhile isDigit, rest.dropWhile isDigit)
    | rest => ([], rest)
  let value := (natural? 10 (whole ++ part)).getD 0
  let problems :=
    if text.isEmpty then [] else
    if whole.isEmpty && part.isEmpty then [.notNumber text]
    else if rest.isEmpty then []
    else [.incomplete text]
  (negative, value, Nat.pow 10 part.length, problems)

/-- A fraction with a number of decimals, halves to even. -/
def fixed (places numerator denominator : Nat) : ByteText :=
  let scaled := numerator * Nat.pow 10 places
  let (q, r) := (scaled / denominator, scaled % denominator)
  let n := if 2 * r > denominator ∨ (2 * r = denominator ∧ q % 2 = 1) then q + 1 else q
  let digits := padded 10 (places + 1) n
  let front := digits.take (digits.length - places)
  if places = 0 then front else front ++ '.' :: digits.drop front.length

/-- What was written, what is left of the arguments, and what went wrong. -/
structure Printed where
  text : ByteText := []
  arguments : List ByteText
  problems : List Problem := []
  /-- Whether an argument was asked for. -/
  used : Bool := false
  stopped : Bool := false

namespace Printed

def add (p : Printed) (text : ByteText) : Printed := { p with text := p.text ++ text }

/-- The next argument, or an empty text. -/
def next (p : Printed) : ByteText × Printed :=
  match p.arguments with
  | a :: rest => (a, { p with arguments := rest, used := true })
  | [] => ([], { p with used := true })

end Printed

/-- The word without a sign that has the same bits. -/
def unsigned (n : Int) : Nat := (BitVec.ofInt 64 n).toNat

/-- Writes one argument as a directive says. -/
def directive (wide : Bool) (l : Layout) (conversion : Char) (p : Printed) : Printed :=
  let (argument, q) := p.next
  let inRadix (radix : Nat) (lead : ByteText) (upper : Bool) : Printed :=
    let (n, problems) := number argument
    let digits := numeral radix (unsigned n)
    let digits := if upper then digits.map Char.toUpper else digits
    let lead := if l.alternate && n != 0 then lead else []
    { q.add (l.number lead digits) with problems := q.problems ++ problems }
  match conversion with
  | 's' => q.add (l.pad (match l.precision with | some n => argument.take n | none => argument))
  | 'b' =>
    let (text, stopped) := unescaped wide (argument.length + 1) argument
    { q.add (l.pad (match l.precision with | some n => text.take n | none => text)) with stopped }
  | 'c' => q.add (l.pad (argument.take 1))
  | 'd' | 'i' =>
    let (n, problems) := number argument
    { q.add (l.number (l.signOf (n < 0)) (numeral 10 n.natAbs)) with
      problems := q.problems ++ problems }
  | 'u' => inRadix 10 [] false
  | 'o' => inRadix 8 ['0'] false
  | 'x' => inRadix 16 ['0', 'x'] false
  | 'X' => inRadix 16 ['0', 'X'] true
  | 'f' | 'F' =>
    let (negative, numerator, denominator, problems) := fraction argument
    let digits := fixed (l.precision.getD 6) numerator denominator
    { q.add ({ l with precision := none }.number (l.signOf negative) digits) with
      problems := q.problems ++ problems }
  | c => { p with problems := p.problems ++ [.badDirective ['%', c]], stopped := true }

def flags (l : Layout) : ByteText → Layout × ByteText
  | '-' :: rest => flags { l with left := true } rest
  | '+' :: rest => flags { l with plus := true } rest
  | ' ' :: rest => flags { l with blank := true } rest
  | '0' :: rest => flags { l with zeros := true } rest
  | '#' :: rest => flags { l with alternate := true } rest
  | cs => (l, cs)

/-- A width or a precision: digits, or an argument for a star. -/
def extent (cs : ByteText) (p : Printed) : Int × ByteText × Printed :=
  match cs with
  | '*' :: rest =>
    let (argument, p) := p.next
    ((number argument).1, rest, p)
  | cs =>
    let digits := cs.takeWhile isDigit
    (((natural? 10 digits).getD 0 : Nat), cs.drop digits.length, p)

/-- Writes a format once. -/
def once (wide : Bool) : Nat → ByteText → Printed → Printed
  | 0, _, p => p
  | fuel + 1, cs, p =>
    if p.stopped then p
    else
      match cs with
      | [] => p
      | '\\' :: rest =>
        let (here, rest) := escape wide rest
        once wide fuel rest (p.add here)
      | '%' :: '%' :: rest => once wide fuel rest (p.add ['%'])
      | '%' :: rest =>
        let (l, rest) := flags {} rest
        let (width, rest, p) := extent rest p
        let l := { l with left := l.left || width < 0, width := width.natAbs }
        let (l, rest, p) := match rest with
          | '.' :: rest =>
            let (precision, rest, p) := extent rest p
            ({ l with precision := if precision < 0 then none else some precision.toNat }, rest, p)
          | rest => (l, rest, p)
        match rest with
        | c :: rest => once wide fuel rest (directive wide l c p)
        | [] => { p with problems := p.problems ++ [.missingDirective], stopped := true }
      | c :: rest => once wide fuel rest (p.add [c])

def repeatedly (wide : Bool) : Nat → ByteText → Printed → Printed
  | 0, _, p => p
  | fuel + 1, format, p =>
    let q := once wide (format.length + 1) format { p with used := false }
    if q.stopped || q.arguments.isEmpty || !q.used then q else repeatedly wide fuel format q

/-- Writes arguments in a format. -/
def print (wide : Bool) (format : ByteText) (arguments : List ByteText) : Printed :=
  repeatedly wide (arguments.length + 1) format { arguments }

end EngineTrials.Shell.Format
