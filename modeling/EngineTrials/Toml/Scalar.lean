import EngineTrials.Number.Reading
import EngineTrials.Text.Pieces
import EngineTrials.Toml.Value

/-!
# TOML strings, numbers and moments

Readers for single values. Each gives the value and what follows it, or nothing where the text is
not well formed.
-/
namespace EngineTrials.Toml
open Text

abbrev Input := List Char

/-- A reader of something at the front of a text. -/
abbrev Parser (α : Type) := Input → Option (α × Input)

def isSpace (c : Char) : Bool := c == ' ' || c == '\t'

def skipSpaces (cs : Input) : Input := cs.dropWhile isSpace

/-- The characters that may stand in strings and comments. -/
def isAllowed (c : Char) : Bool := c == '\t' || (' ' ≤ c && c ≠ '\x7f')

/-- What follows a line break. -/
def afterBreak? : Input → Option Input
  | '\n' :: rest => some rest
  | '\r' :: '\n' :: rest => some rest
  | _ => none

def charOf? (n : Nat) : Option Char :=
  if h : n.isValidChar then some (Char.ofNatAux n h) else none

def hexEscape (width : Nat) : Parser Char := fun cs => do
  let hex := cs.take width
  if hex.length < width then none
  return (← (natural? 16 hex).bind charOf?, cs.drop width)

/-- The character that a backslash and what follows it stand for. -/
def escape : Parser Char
  | 'b' :: rest => some ('\x08', rest)
  | 't' :: rest => some ('\t', rest)
  | 'n' :: rest => some ('\n', rest)
  | 'f' :: rest => some ('\x0c', rest)
  | 'r' :: rest => some ('\r', rest)
  | 'e' :: rest => some ('\x1b', rest)
  | '"' :: rest => some ('"', rest)
  | '\\' :: rest => some ('\\', rest)
  | 'x' :: rest => hexEscape 2 rest
  | 'u' :: rest => hexEscape 4 rest
  | 'U' :: rest => hexEscape 8 rest
  | _ => none

/-- The rest of a string on one line. Only double quotes know escapes. -/
def lineString (quote : Char) : Nat → Parser (List Char)
  | 0, _ => none
  | _, [] => none
  | fuel + 1, c :: rest =>
    if c = quote then some ([], rest)
    else if c = '\\' ∧ quote = '"' then do
      let (ch, rest) ← escape rest
      let (text, rest) ← lineString quote fuel rest
      return (ch :: text, rest)
    else if isAllowed c then do
      let (text, rest) ← lineString quote fuel rest
      return (c :: text, rest)
    else none

/-- Passes spaces and line breaks. -/
def skipBlank : Nat → Input → Input
  | 0, cs => cs
  | fuel + 1, cs =>
    let cs := skipSpaces cs
    match afterBreak? cs with
    | some rest => skipBlank fuel rest
    | none => cs

/-- The rest of a string of several lines. Up to two quotes may stand before the closing three; a
backslash at the end of a line takes away all that is blank from there on. -/
def blockString (quote : Char) : Nat → Parser (List Char)
  | 0, _ => none
  | _, [] => none
  | fuel + 1, c :: rest =>
    let quotes := ((c :: rest).takeWhile (· == quote)).length
    if 3 ≤ quotes then
      if quotes ≤ 5 then some (List.replicate (quotes - 3) quote, (c :: rest).drop quotes) else none
    else match afterBreak? (c :: rest) with
      | some rest => do
        let (text, rest) ← blockString quote fuel rest
        return ('\n' :: text, rest)
      | none =>
        if c = '\\' ∧ quote = '"' then
          match afterBreak? (skipSpaces rest) with
          | some rest => blockString quote fuel (skipBlank (rest.length + 1) rest)
          | none => do
            let (ch, rest) ← escape rest
            let (text, rest) ← blockString quote fuel rest
            return (ch :: text, rest)
        else if isAllowed c then do
          let (text, rest) ← blockString quote fuel rest
          return (c :: text, rest)
        else none

/-- A string in quotes, of several lines if `blocks` allows them and three quotes open it. -/
def quoted (blocks : Bool) : Parser String := fun cs =>
  match cs with
  | c :: rest =>
    if c ≠ '"' ∧ c ≠ '\'' then none
    else if blocks ∧ rest.take 2 = [c, c] then do
      let body := rest.drop 2
      let (text, rest) ← blockString c (body.length + 1) ((afterBreak? body).getD body)
      return (String.ofList text, rest)
    else do
      let (text, rest) ← lineString c (rest.length + 1) rest
      return (String.ofList text, rest)
  | [] => none

/-- Digits with single underscores between them. -/
def digitGroups? (radix : Nat) (cs : List Char) : Option (List Char) :=
  let groups := pieces (· == '_') cs
  if groups.all fun g => !g.isEmpty && g.all fun c => (digit? radix c).isSome then
    some groups.flatten
  else none

/-- A whole number in decimal, which no zero begins unless it is the only digit. -/
def wholeDigits? (cs : List Char) : Option (List Char) := do
  let ds ← digitGroups? 10 cs
  if 1 < ds.length ∧ ds.head? = some '0' then none else return ds

/-- An optional sign, and what follows it. -/
def splitSign : List Char → Bool × Bool × List Char
  | '-' :: rest => (true, true, rest)
  | '+' :: rest => (true, false, rest)
  | cs => (false, false, cs)

def integer? (cs : List Char) : Option Int :=
  match cs with
  | '0' :: 'x' :: digits => (digitGroups? 16 digits).bind (natural? 16) |>.map Int.ofNat
  | '0' :: 'o' :: digits => (digitGroups? 8 digits).bind (natural? 8) |>.map Int.ofNat
  | '0' :: 'b' :: digits => (digitGroups? 2 digits).bind (natural? 2) |>.map Int.ofNat
  | cs => do
    let (_, negative, digits) := splitSign cs
    let n ← natural? 10 (← wholeDigits? digits)
    return if negative then -(n : Int) else n

/-- An exponent, where there is one. -/
def exponent? (cs : List Char) : Option (List Char) :=
  match cs with
  | [] => some []
  | _ :: rest => do
    let (signed, negative, digits) := splitSign rest
    let ds ← digitGroups? 10 digits
    return 'e' :: ((if signed ∧ negative then ['-'] else []) ++ ds)

/-- A decimal with a point, an exponent or both, and digits on both sides of the point. -/
def decimal? (cs : List Char) : Option Value := do
  let (_, negative, body) := splitSign cs
  let isExponent (c : Char) : Bool := c == 'e' || c == 'E'
  let mantissa := body.takeWhile (!isExponent ·)
  let power ← exponent? (body.dropWhile (!isExponent ·))
  let whole ← wholeDigits? (mantissa.takeWhile (· ≠ '.'))
  let fraction ← match mantissa.dropWhile (· ≠ '.') with
    | [] => if power.isEmpty then none else pure []
    | _ :: digits => do pure ('.' :: (← digitGroups? 10 digits))
  match Binary64.read? ((if negative then ['-'] else []) ++ whole ++ fraction ++ power) with
  | some (.infinite _) => return .overflow
  | some x => return .float x
  | none => none

def namedFloat? (cs : List Char) : Option Value :=
  let (_, negative, name) := splitSign cs
  if name = ['i', 'n', 'f'] then some (.float (.infinite negative))
  else if name = ['n', 'a', 'n'] then some (.float .nan)
  else none

/-- A number of exactly two digits with an upper bound. -/
def twoDigits (greatest : Nat) : Parser (List Char)
  | a :: b :: rest => do
    let n ← natural? 10 [a, b]
    if n ≤ greatest then return ([a, b], rest) else none
  | _ => none

def expect (c : Char) : Parser Unit
  | d :: rest => if c = d then some ((), rest) else none
  | [] => none

def isLeap (y : Nat) : Bool := y % 4 == 0 && (y % 100 != 0 || y % 400 == 0)

def daysIn (y m : Nat) : Nat :=
  if m = 2 then (if isLeap y then 29 else 28)
  else if m = 4 ∨ m = 6 ∨ m = 9 ∨ m = 11 then 30
  else 31

def date : Parser (List Char) := fun cs => do
  let year := cs.take 4
  if year.length < 4 then none
  let y ← natural? 10 year
  let ((), cs) ← expect '-' (cs.drop 4)
  let (month, cs) ← twoDigits 12 cs
  let ((), cs) ← expect '-' cs
  let m ← natural? 10 month
  let (day, cs) ← twoDigits (daysIn y m) cs
  if m = 0 ∨ day = ['0', '0'] then none
  return (year ++ ['-'] ++ month ++ ['-'] ++ day, cs)

/-- A fraction of a second, to the nanosecond and without zeros at the end. -/
def fraction : Parser (List Char)
  | '.' :: rest => do
    let ds := rest.takeWhile isDigit
    if ds.isEmpty then none
    let kept := dropTrailing (· == '0') (ds.take 9)
    return (if kept.isEmpty then [] else '.' :: kept, rest.dropWhile isDigit)
  | cs => some ([], cs)

/-- A time of day, which may leave the seconds out. -/
def time : Parser (List Char) := fun cs => do
  let (hour, cs) ← twoDigits 23 cs
  let ((), cs) ← expect ':' cs
  let (minute, cs) ← twoDigits 59 cs
  match cs with
  | ':' :: rest => do
    let (second, cs) ← twoDigits 60 rest
    let (part, cs) ← fraction cs
    return (hour ++ [':'] ++ minute ++ [':'] ++ second ++ part, cs)
  | cs => return (hour ++ [':'] ++ minute, cs)

/-- The distance from universal time, where it is given. -/
def zone : Parser (List Char)
  | [] => some ([], [])
  | c :: rest =>
    if c = 'Z' ∨ c = 'z' then some (['Z'], rest)
    else if c = '+' ∨ c = '-' then do
      let (hour, cs) ← twoDigits 23 rest
      let ((), cs) ← expect ':' cs
      let (minute, cs) ← twoDigits 59 cs
      return (c :: hour ++ [':'] ++ minute, cs)
    else none

/-- A date, a time, or both with a letter or a space between them. -/
def moment? (cs : List Char) : Option Value := do
  let done (text : List Char) : Value := .moment (String.ofList text)
  match date cs with
  | none =>
    match ← time cs with
    | (t, []) => return done t
    | _ => none
  | some (d, []) => return done d
  | some (d, c :: rest) => do
    if c ≠ 'T' ∧ c ≠ 't' ∧ c ≠ ' ' then none
    let (t, rest) ← time rest
    match ← zone rest with
    | (z, []) => return done (d ++ ['T'] ++ t ++ z)
    | _ => none

/-- The characters of values without quotes and brackets. -/
def isBareChar (c : Char) : Bool :=
  isDigit c || ('a' ≤ c && c ≤ 'z') || ('A' ≤ c && c ≤ 'Z') || c == '+' || c == '-' || c == '.' ||
    c == '_' || c == ':'

/-- The text of a bare value. A space belongs to it between a date and a time. -/
def bareText (cs : Input) : List Char × Input :=
  let word := cs.takeWhile isBareChar
  let rest := cs.dropWhile isBareChar
  match date word, rest with
  | some (_, []), ' ' :: c :: more =>
    if isDigit c then
      (word ++ ' ' :: (c :: more).takeWhile isBareChar, (c :: more).dropWhile isBareChar)
    else (word, rest)
  | _, _ => (word, rest)

/-- The value of a bare text. -/
def bareValue? (word : List Char) : Option Value :=
  if word = "true".toList then some (.boolean true)
  else if word = "false".toList then some (.boolean false)
  else
    match integer? word with
    | some n => some (.integer n)
    | none => (decimal? word).or ((namedFloat? word).or (moment? word))

def bare : Parser Value := fun cs => do
  let (word, rest) := bareText cs
  return (← bareValue? word, rest)

end EngineTrials.Toml
