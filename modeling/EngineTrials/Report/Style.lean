/-!
# Terminal styles

A painted text stands between the escape sequence of its style and the one that ends every style.
-/
namespace EngineTrials

inductive Style
  | bold
  | red
  | green
  | yellow
deriving DecidableEq, Inhabited

namespace Style

def opening : Style → String
  | bold => "\x1b[1m"
  | red => "\x1b[31m"
  | green => "\x1b[32m"
  | yellow => "\x1b[33m"

def closing : String := "\x1b[0m"

/-- The text itself unless colour is asked for. -/
def paint (style : Style) (color : Bool) (text : String) : String :=
  if color then style.opening ++ text ++ closing else text

end Style

end EngineTrials
