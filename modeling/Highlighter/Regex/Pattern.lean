/-
# Patterns

The regular expressions that lexer rules are made of.  A `Pattern` keeps groups by their number and
repetitions by their bounds; which of two ways to match is preferred is part of it (`alt` tries its
left side first, a greedy repetition tries to go on first).  Patterns have no back references and
look at most one character behind or ahead.
-/
import Highlighter.Regex.CharSet

namespace Highlighter

/-- A condition on a place in a text that consumes nothing. -/
inductive Assertion where
  | textStart
  | textEnd
  /-- At the start of the text or just after a line feed. -/
  | lineStart
  /-- At the end of the text or just before a line feed. -/
  | lineEnd
  /-- As `lineStart`, where a carriage return with a line feed after it also ends a line. -/
  | crlfLineStart
  | crlfLineEnd
  /-- Exactly one of the two neighbours is in the word class. -/
  | wordBoundary (word : CharSet)
  | notWordBoundary (word : CharSet)
  /-- No word character before, one after. -/
  | wordStart (word : CharSet)
  | wordEnd (word : CharSet)
  /-- No word character before. -/
  | wordStartHalf (word : CharSet)
  | wordEndHalf (word : CharSet)
  deriving DecidableEq

/-- A regular expression. -/
inductive Pattern where
  | empty
  | set (s : CharSet)
  | look (a : Assertion)
  | seq (p q : Pattern)
  | alt (p q : Pattern)
  /-- At least `min` and, if `max` is given, at most `max` times. -/
  | repeated (p : Pattern) (min : Nat) (max : Option Nat) (greedy : Bool)
  | group (index : Nat) (p : Pattern)
  deriving DecidableEq

namespace Pattern

/-- One character. -/
def char (c : Char) : Pattern := set (.single c)

/-- Patterns one after the other. -/
def concat : List Pattern → Pattern
  | [] => empty
  | [p] => p
  | p :: ps => seq p (concat ps)

/-- Patterns of which the first that fits is taken. -/
def choice : List Pattern → Pattern
  | [] => empty
  | [p] => p
  | p :: ps => alt p (choice ps)

end Pattern

end Highlighter
