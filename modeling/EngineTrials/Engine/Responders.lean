import EngineTrials.Engine.Scripted
import EngineTrials.Text.Digits
import EngineTrials.Text.Payload
import EngineTrials.Text.Pieces

/-!
# Responders

Stand-ins for an engine that compute their response from the call.
-/
namespace EngineTrials.Responders
open Text

/-- Writes back what it was given. -/
def echo (_ : Command) (input : String) : Response :=
  .ok (Utf8.encode input.toList)

/-- Writes its arguments, one a line. -/
def arguments (command : Command) (_ : String) : Response :=
  .ok (Utf8.encode (join "\n" command.arguments).toList)

/-- Whether `part` occurs somewhere in a text. -/
def occurs (part : List Char) : List Char → Bool
  | [] => part.isEmpty
  | c :: rest => part.isPrefixOf (c :: rest) || occurs part rest

/-- Reports a time for each line of its input, or fails if the input asks for it. -/
def timing (_ : Command) (input : String) : Response :=
  if occurs ['F', 'A', 'I', 'L'] input.toList then
    .complete ⟨1, Utf8.encode "partial\n".toList, Utf8.encode "error: FAIL\n".toList, none⟩
  else
    let lineCount := (inputLines input.toList).length
    let reply := (List.range lineCount).map fun i => "Execute query: " ++ count (i + 1) ++ ".5\n"
    .ok (Utf8.encode (join "" reply).toList)

def named? (name : String) : Option (Command → String → Response) :=
  if name = "echo" then some echo
  else if name = "args" then some arguments
  else if name = "timing" then some timing
  else none

end EngineTrials.Responders
