/-!
# Shell commands

The parts of words and the commands of the shell that engine scripts are written for. Text in a
shell is bytes; here it is characters, one a byte.
-/
namespace EngineTrials.Shell

/-- Bytes as characters below 256. -/
abbrev ByteText := List Char

/-- The order of texts by their bytes: the first difference decides, and a beginning comes first. -/
def inByteOrder (a b : ByteText) : Bool :=
  !List.lex b a fun x y => decide (x < y)

/-- What `${name…word}` does with a parameter. -/
inductive Modifier
  /-- `-`: the word in place of a missing value. -/
  | fallback
  /-- `=`: the same, and the word becomes the value. -/
  | assign
  /-- `?`: a missing value is an error. -/
  | demand
  /-- `+`: the word in place of a present value. -/
  | replace
  /-- `#` and `##`: without the shortest or longest beginning that fits the word. -/
  | dropFront (longest : Bool)
  /-- `%` and `%%`: the same at the end. -/
  | dropBack (longest : Bool)
deriving DecidableEq, Inhabited

mutual

/-- A part of a word. What a quoted part gives is neither split nor a pattern. -/
inductive Piece
  | literal (text : ByteText) (quoted : Bool)
  | parameter (name : ByteText) (quoted : Bool)
  | length (name : ByteText) (quoted : Bool)
  /-- With `colon`, an empty value counts as missing. -/
  | modified (name : ByteText) (modifier : Modifier) (colon : Bool) (word : List Piece)
      (quoted : Bool)
  | substitution (script : List Command) (quoted : Bool)
  | arithmetic (expression : List Piece) (quoted : Bool)

inductive Redirection
  | input (descriptor : Nat) (path : List Piece)
  | output (descriptor : Nat) (path : List Piece)
  | append (descriptor : Nat) (path : List Piece)
  /-- `>&` and `<&`: the target is a descriptor, or a dash to close this one. -/
  | duplicate (descriptor : Nat) (target : List Piece)
  | hereDocument (descriptor : Nat) (body : List Piece)

inductive Command
  | simple (line : Nat) (assignments : List (ByteText × List Piece)) (words : List (List Piece))
      (redirections : List Redirection)
  | redirected (body : Command) (line : Nat) (redirections : List Redirection)
  | pipeline (parts : List Command)
  | negated (body : Command)
  | both (first second : Command)
  | either (first second : Command)
  | background (body : Command)
  | group (body : List Command)
  | subshell (body : List Command)
  | conditional (test accepted refused : List Command)
  /-- Runs the body as long as the test succeeds; with `negated`, as long as it fails. -/
  | loop (negated : Bool) (test body : List Command)
  /-- Without words, the arguments of the script. -/
  | each (name : ByteText) (words : Option (List (List Piece))) (body : List Command)
  | choice (subject : List Piece) (arms : List (List (List Piece) × List Command))
  | function (name : ByteText) (body : Command)

end

/-- A word of a command. -/
abbrev Word := List Piece

instance : Inhabited Piece := ⟨.literal [] false⟩

instance : Inhabited Redirection := ⟨.input 0 []⟩

instance : Inhabited Command := ⟨.group []⟩

namespace Word

/-- The text of a word without quotes and expansions. -/
def bare? : Word → Option ByteText
  | [] => some []
  | .literal text false :: rest => (bare? rest).map (text ++ ·)
  | _ => none

end Word

/-- What may begin a name. -/
def isNameStart (c : Char) : Bool :=
  ('a' ≤ c && c ≤ 'z') || ('A' ≤ c && c ≤ 'Z') || c == '_'

def isNamePart (c : Char) : Bool :=
  isNameStart c || ('0' ≤ c && c ≤ '9')

def isName (cs : ByteText) : Bool :=
  (cs.head?.any isNameStart) && cs.all isNamePart

/-- A script that cannot be read any further. -/
structure SyntaxFault where
  line : Nat
  message : String
deriving DecidableEq, Inhabited

/-- The commands of a script, up to the first that cannot be read. -/
structure Script where
  commands : List Command
  fault : Option SyntaxFault := none

end EngineTrials.Shell
