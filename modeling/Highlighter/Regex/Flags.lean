/-
# Pattern flags

The switches that change how the rest of a pattern is read: set for a whole grammar (`LineFlags` of
it) or inside a pattern by `(?i)` and the like.
-/

namespace Highlighter

/-- The switches in force at one place of a pattern. -/
structure PatternFlags where
  /-- `i`: letters stand for both cases. -/
  caseInsensitive : Bool := false
  /-- `m`: `^` and `$` also hold at line ends. -/
  multiLine : Bool := false
  /-- `s`: `.` also stands for a line feed. -/
  dotAll : Bool := false
  /-- `U`: greedy and lazy repetitions change places. -/
  swapGreed : Bool := false
  /-- `u`: classes and case go by the Unicode tables, not by ASCII. -/
  unicode : Bool := true
  /-- `R`: a carriage return before a line feed belongs to the line end. -/
  crlf : Bool := false
  /-- `x`: blanks and comments are skipped. -/
  verbose : Bool := false
  deriving DecidableEq

/-- One switch. -/
inductive PatternFlag where
  | caseInsensitive | multiLine | dotAll | swapGreed | unicode | crlf | verbose
  deriving DecidableEq

namespace PatternFlag

/-- The switch that a letter stands for. -/
def ofChar? : Char → Option PatternFlag
  | 'i' => some caseInsensitive
  | 'm' => some multiLine
  | 's' => some dotAll
  | 'U' => some swapGreed
  | 'u' => some unicode
  | 'R' => some crlf
  | 'x' => some verbose
  | _ => none

end PatternFlag

/-- Turn one switch on or off. -/
def PatternFlags.set (f : PatternFlags) (flag : PatternFlag) (on : Bool) : PatternFlags :=
  match flag with
  | .caseInsensitive => { f with caseInsensitive := on }
  | .multiLine => { f with multiLine := on }
  | .dotAll => { f with dotAll := on }
  | .swapGreed => { f with swapGreed := on }
  | .unicode => { f with unicode := on }
  | .crlf => { f with crlf := on }
  | .verbose => { f with verbose := on }

/-- An item of a flag list: a switch, or the sign that turns the switches after it off. -/
inductive FlagItem where
  | flag (flag : PatternFlag)
  | negation
  deriving DecidableEq

namespace FlagItem

/-- Apply a flag list, switches being turned `on` until a negation comes. -/
def apply (f : PatternFlags) : (on : Bool) → List FlagItem → PatternFlags
  | _, [] => f
  | _, negation :: items => apply f false items
  | on, flag x :: items => apply (f.set x on) on items

end FlagItem

end Highlighter
