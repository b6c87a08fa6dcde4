import EngineTrials.Shell.Command
import EngineTrials.Text.Digits

/-!
# Shell arithmetic

Expressions over 64-bit integers that wrap around, with variables and assignments. An operand of
`&&`, `||` or `?:` that does not count is not evaluated.
-/
namespace EngineTrials.Shell.Arithmetic
open Text

inductive Binary
  | times | over | modulo | plus | minus | shiftLeft | shiftRight
  | less | atMost | greater | atLeast | equal | different
  | bitAnd | bitXor | bitOr | logicalAnd | logicalOr
deriving DecidableEq, Inhabited

inductive Unary
  | plus | minus | not | complement
deriving DecidableEq, Inhabited

inductive Expression
  | number (value : Int)
  | variable (name : ByteText)
  | unary (op : Unary) (operand : Expression)
  | binary (op : Binary) (left right : Expression)
  | choose (test accepted refused : Expression)
  /-- Sets a variable to the value, or to the value of an operation on it. -/
  | assign (name : ByteText) (op : Option Binary) (value : Expression)
deriving Inhabited

inductive Token
  | number (value : Int)
  | name (name : ByteText)
  | op (text : String)
  /-- What cannot be read, and all that follows. -/
  | unreadable
deriving DecidableEq, Inhabited

/-- Operators, longer ones before their beginnings. -/
def operators : List String :=
  ["<<=", ">>=", "<<", ">>", "<=", ">=", "==", "!=", "&&", "||", "+=", "-=", "*=", "/=", "%=", "&=",
    "|=", "^=", "+", "-", "*", "/", "%", "<", ">", "=", "!", "~", "&", "|", "^", "?", ":", "(", ")"]

def isGap (c : Char) : Bool := c == ' ' || c == '\t' || c == '\n'

/-- Decimal, octal after `0`, hexadecimal after `0x`. -/
def number? (digits : ByteText) : Option Int :=
  match digits with
  | '0' :: x :: rest =>
    if x == 'x' || x == 'X' then (natural? 16 rest).map Int.ofNat
    else (natural? 8 (x :: rest)).map Int.ofNat
  | digits => (natural? 10 digits).map Int.ofNat

def tokens : Nat → ByteText → List Token
  | 0, _ => [.unreadable]
  | fuel + 1, cs =>
    match cs.dropWhile isGap with
    | [] => []
    | c :: rest =>
      if isDigit c then
        let digits := (c :: rest).takeWhile isNamePart
        match number? digits with
        | some n => .number n :: tokens fuel ((c :: rest).drop digits.length)
        | none => [.number 0, .unreadable]
      else if isNameStart c then
        let name := (c :: rest).takeWhile isNamePart
        .name name :: tokens fuel ((c :: rest).drop name.length)
      else
        match operators.find? fun o => o.toList.isPrefixOf (c :: rest) with
        | some op => .op op :: tokens fuel ((c :: rest).drop op.length)
        | none => [.unreadable]

/-- How strongly an operator binds its operands. -/
def binary? (op : String) : Option (Nat × Binary) :=
  [("||", 1, Binary.logicalOr), ("&&", 2, .logicalAnd), ("|", 3, .bitOr), ("^", 4, .bitXor),
    ("&", 5, .bitAnd), ("==", 6, .equal), ("!=", 6, .different), ("<", 7, .less),
    ("<=", 7, .atMost),
    (">", 7, .greater), (">=", 7, .atLeast), ("<<", 8, .shiftLeft), (">>", 8, .shiftRight),
    ("+", 9, .plus), ("-", 9, .minus), ("*", 10, .times), ("/", 10, .over),
    ("%", 10, .modulo)].lookup op

def unary? (op : String) : Option Unary :=
  [("+", Unary.plus), ("-", .minus), ("!", .not), ("~", .complement)].lookup op

/-- The operation that an assignment makes on the former value. -/
def assignment? (op : String) : Option (Option Binary) :=
  if op = "=" then some none
  else if op.length ≥ 2 ∧ op.endsWith "=" ∧ binary? op = none then
    (binary? (String.ofList op.toList.dropLast)).map fun (_, b) => some b
  else none

abbrev Rest := List Token

mutual

/-- An expression with assignments and choices. -/
def whole : Nat → Rest → Option (Expression × Rest)
  | 0, _ => none
  | fuel + 1, ts =>
    match ts with
    | .name name :: .op op :: rest =>
      match assignment? op with
      | some operation => do
        let (value, rest) ← whole fuel rest
        return (.assign name operation value, rest)
      | none => chosen fuel ts
    | ts => chosen fuel ts

def chosen : Nat → Rest → Option (Expression × Rest)
  | 0, _ => none
  | fuel + 1, ts => do
    let (test, rest) ← operand fuel ts
    let (test, rest) ← operations fuel 1 test rest
    match rest with
    | .op "?" :: rest =>
      let (accepted, rest) ← whole fuel rest
      match rest with
      | .op ":" :: rest =>
        let (refused, rest) ← chosen fuel rest
        return (.choose test accepted refused, rest)
      | _ => none
    | rest => return (test, rest)

/-- Operators that bind at least this strongly, applied to the left operand read so far. -/
def operations : Nat → Nat → Expression → Rest → Option (Expression × Rest)
  | 0, _, _, _ => none
  | fuel + 1, least, left, ts =>
    match ts with
    | .op op :: rest =>
      match binary? op with
      | some (strength, b) =>
        if strength < least then some (left, ts)
        else do
          let (right, rest) ← operand fuel rest
          let (right, rest) ← operations fuel (strength + 1) right rest
          operations fuel least (.binary b left right) rest
      | none => some (left, ts)
    | ts => some (left, ts)

def operand : Nat → Rest → Option (Expression × Rest)
  | 0, _ => none
  | fuel + 1, ts =>
    match ts with
    | .number n :: rest => some (.number n, rest)
    | .name name :: rest => some (.variable name, rest)
    | .op "(" :: rest => do
      let (inner, rest) ← whole fuel rest
      match rest with
      | .op ")" :: rest => return (inner, rest)
      | _ => none
    | .op op :: rest => do
      let u ← unary? op
      let (inner, rest) ← operand fuel rest
      return (.unary u inner, rest)
    | .unreadable :: _ | [] => none

end

inductive Problem
  /-- An operand is missing. -/
  | noOperand
  /-- The text goes on after an expression. -/
  | overlong
  | divisionByZero
  /-- A variable whose value is no number. -/
  | notNumber (name : ByteText)
deriving DecidableEq, Inhabited

/-- The expression of a text; an empty one is zero. -/
def read (text : ByteText) : Except Problem Expression :=
  let ts := tokens (text.length + 1) text
  if ts.isEmpty then .ok (.number 0)
  else
    match whole (8 * ts.length + 8) ts with
    | some (e, []) => .ok e
    | some _ => .error .overlong
    | none => .error .noOperand

/-- The values of variables, and those that were set, the latest first. -/
structure Scope where
  value : ByteText → Option Int
  assigned : List (ByteText × Int) := []

/-- The bits of an integer as a word. -/
def word (n : Int) : BitVec 64 := BitVec.ofInt 64 n

/-- What is left of an integer in a word. -/
def wrap (n : Int) : Int := (word n).toInt

def truth (b : Bool) : Int := if b then 1 else 0

def apply (op : Binary) (a b : Int) : Option Int :=
  match op with
  | .times => some (wrap (a * b))
  | .over => if b = 0 then none else some (wrap (a.tdiv b))
  | .modulo => if b = 0 then none else some (a.tmod b)
  | .plus => some (wrap (a + b))
  | .minus => some (wrap (a - b))
  | .shiftLeft => some (wrap (a * (1 <<< (b.toNat % 64) : Nat)))
  | .shiftRight => some (a.fdiv (1 <<< (b.toNat % 64) : Nat))
  | .less => some (truth (a < b))
  | .atMost => some (truth (a ≤ b))
  | .greater => some (truth (b < a))
  | .atLeast => some (truth (b ≤ a))
  | .equal => some (truth (a = b))
  | .different => some (truth (a ≠ b))
  | .bitAnd => some (word a &&& word b).toInt
  | .bitXor => some (word a ^^^ word b).toInt
  | .bitOr => some (word a ||| word b).toInt
  | .logicalAnd => some (truth (a ≠ 0 ∧ b ≠ 0))
  | .logicalOr => some (truth (a ≠ 0 ∨ b ≠ 0))

def applyUnary (op : Unary) (a : Int) : Int :=
  match op with
  | .plus => a
  | .minus => wrap (-a)
  | .not => truth (a = 0)
  | .complement => -a - 1

def lookUp (s : Scope) (name : ByteText) : Except Problem Int :=
  match s.assigned.lookup name with
  | some n => .ok n
  | none =>
    match s.value name with
    | some n => .ok n
    | none => .error (.notNumber name)

def evaluate : Expression → Scope → Except Problem (Int × Scope)
  | .number n, s => .ok (wrap n, s)
  | .variable name, s => do return (← lookUp s name, s)
  | .unary op e, s => do
    let (a, s) ← evaluate e s
    return (applyUnary op a, s)
  | .binary op left right, s => do
    let (a, s) ← evaluate left s
    if op = .logicalAnd ∧ a = 0 then return (0, s)
    else if op = .logicalOr ∧ a ≠ 0 then return (1, s)
    else
      let (b, s) ← evaluate right s
      match apply op a b with
      | some c => return (c, s)
      | none => .error .divisionByZero
  | .choose test accepted refused, s => do
    let (a, s) ← evaluate test s
    if a ≠ 0 then evaluate accepted s else evaluate refused s
  | .assign name op value, s => do
    let (b, s) ← evaluate value s
    let c ← match op with
      | none => pure b
      | some op =>
        match apply op (← lookUp s name) b with
        | some c => pure c
        | none => .error .divisionByZero
    return (c, { s with assigned := (name, c) :: s.assigned })

end EngineTrials.Shell.Arithmetic
