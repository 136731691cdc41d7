/-
# Word lists

A rule that matches literal words is made from the list of words and the pattern that has to follow
(`Words.pattern`): the words are escaped and joined as alternatives in their order.
-/
import Highlighter.Grammar.Basic
import Highlighter.Regex.Escape

namespace Highlighter

namespace Words

/-- A word as a pattern that matches just it. -/
def escape (word : List Char) : List Char :=
  word.flatMap fun c => if Escape.metaCharacters.contains c then ['\\', c] else [c]

/-- The words as alternatives. -/
def alternatives (words : List (List Char)) : List Char :=
  ['|'].intercalate (words.map escape)

/-- The pattern of a word list. -/
def pattern (w : Words) : String :=
  "(?:" ++ String.ofList (alternatives (w.words.map String.toList)) ++ ")" ++ w.suffix

/-- The rule of a word list. -/
def rule (w : Words) (kind : Kind) (transition : Option (Transition String) := none) : Rule where
  pattern := w.pattern
  action := .token kind
  transition
  words := some w

end Words

end Highlighter
