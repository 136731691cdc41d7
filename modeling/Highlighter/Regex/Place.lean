/-
# Places in a text

A pattern is matched from a place in a text and sees of it the character before and the characters
after (`Place`).  The place also counts the characters since the match began, which is what group
spans are measured in.  `Assertion.holds` says where a condition is met.
-/
import Highlighter.Regex.Pattern

namespace Highlighter

/-- A place in a text. -/
structure Place where
  /-- Characters since the match began. -/
  index : Nat
  before : Option Char
  rest : List Char
  deriving DecidableEq

namespace Place

/-- The place where a match begins. -/
def start (before : Option Char) (rest : List Char) : Place := ⟨0, before, rest⟩

/-- The next character and the place after it. -/
def next? (p : Place) : Option (Char × Place) :=
  match p.rest with
  | [] => none
  | c :: rest => some (c, ⟨p.index + 1, some c, rest⟩)

/-- The character just ahead. -/
def ahead (p : Place) : Option Char := p.rest.head?

end Place

namespace Assertion

/-- Whether a neighbour exists and is in the set. -/
def inSet (s : CharSet) (c : Option Char) : Bool := c.any fun c => s.contains c

/-- Whether the condition is met between two neighbours. -/
def between : Assertion → (before ahead : Option Char) → Bool
  | textStart, b, _ => b.isNone
  | textEnd, _, a => a.isNone
  | lineStart, b, _ => b.isNone || b == some '\n'
  | lineEnd, _, a => a.isNone || a == some '\n'
  | crlfLineStart, b, a => b.isNone || b == some '\n' || (b == some '\r' && a != some '\n')
  | crlfLineEnd, b, a => a.isNone || a == some '\r' || (a == some '\n' && b != some '\r')
  | wordBoundary w, b, a => inSet w b ^^ inSet w a
  | notWordBoundary w, b, a => !(inSet w b ^^ inSet w a)
  | wordStart w, b, a => !inSet w b && inSet w a
  | wordEnd w, b, a => inSet w b && !inSet w a
  | wordStartHalf w, b, _ => !inSet w b
  | wordEndHalf w, _, a => !inSet w a

/-- Whether the condition is met at a place. -/
def holds (a : Assertion) (p : Place) : Bool := a.between p.before p.ahead

end Assertion

end Highlighter
