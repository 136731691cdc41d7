/-
# Raw output

One line for each token: its kind, a tab, and its text in quotes.
-/
import Highlighter.Text.Quoted
import Highlighter.Token.Basic

namespace Highlighter

namespace Raw

/-- The line of a token. -/
def line (t : Token) : List Char :=
  t.kind.dotted.toList ++ ['\t'] ++ Quoted.encode t.text ++ ['\n']

/-- The lines of tokens. -/
def write (tokens : List Token) : List Char := tokens.flatMap line

end Raw

end Highlighter
