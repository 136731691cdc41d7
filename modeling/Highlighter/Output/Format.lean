/-
# Output formats
-/
import Highlighter.Output.Html
import Highlighter.Output.Json
import Highlighter.Output.Raw
import Highlighter.Output.Terminal

namespace Highlighter

/-- The ways to write tokens. -/
inductive Format where
  | raw
  | json
  | html
  | terminal
  deriving DecidableEq

namespace Format

/-- Tokens in a format.  The theme and the choice of colours concern terminals only. -/
def write (f : Format) (colored : Bool) (theme : Theme) (tokens : List Token) : List Char :=
  match f with
  | raw => Raw.write tokens
  | json => JsonOutput.write tokens
  | html => Html.write tokens
  | terminal => Terminal.write colored theme tokens

end Format

end Highlighter
