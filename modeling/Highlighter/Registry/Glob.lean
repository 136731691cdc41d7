/-
# Globs

Patterns for file names: `*` stands for any text, `?` for any character, and every other character
for itself.  A line feed is not among the characters that the first two stand for.  A glob that is
too large is refused (`Glob.compile?`).
-/
import Highlighter.Regex.Analysis
import Highlighter.Regex.Match

namespace Highlighter

/-- A pattern for file names, as it is written. -/
abbrev Glob := List Char

namespace Glob

/-- Any character that a wildcard may stand for. -/
def wildcard : Pattern := .set (.compl (.single '\n'))

/-- What a character of a glob stands for. -/
def piece : Char → Pattern
  | '*' => .repeated wildcard 0 none true
  | '?' => wildcard
  | c => .char c

/-- A glob as a pattern for the whole of a name. -/
def pattern (glob : Glob) : Pattern := .concat (glob.map piece ++ [.look .textEnd])

/-- The pattern of a glob, unless it is too large. -/
def compile? (glob : Glob) : Option Pattern :=
  if Pattern.maxWeight < (pattern glob).weight then none else some (pattern glob)

/-- Whether the pattern of a glob matches a name. -/
def accepts (pattern : Pattern) (name : List Char) : Bool := (pattern.match? none name).isSome

/-- Whether a name fits a glob.  None fits one that is refused. -/
def fits (glob : Glob) (name : List Char) : Bool := (compile? glob).any fun p => accepts p name

end Glob

end Highlighter
