/-
# JSON output

A JSON array with one object for each token: its kind, its text, and where it starts and ends.
-/
import Highlighter.Token.Json

namespace Highlighter

namespace JsonOutput

/-- The object of a token. -/
def entry (t : Token) : List Char :=
  Json.writeMembers [("kind".toList, t.kind.toJson), ("text".toList, Json.quote t.text),
    ("start".toList, Json.writeNatural t.start), ("end".toList, Json.writeNatural t.stop)]

/-- The array of tokens, an object a line. -/
def write (tokens : List Token) : List Char :=
  ['['] ++ [','].intercalate (tokens.map fun t => "\n  ".toList ++ entry t) ++ "\n]\n".toList

end JsonOutput

end Highlighter
