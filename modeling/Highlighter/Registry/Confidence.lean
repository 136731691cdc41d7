/-
# Confidence

How sure a language is that a text is written in it.  Only a confidence above zero counts, and of
two that do the larger one is the better.
-/

namespace Highlighter

/-- How sure a language is that a text is written in it. -/
inductive Confidence where
  /-- No number. -/
  | undefined
  /-- Below all numbers. -/
  | unboundedBelow
  | value (score : Rat)
  /-- Above all numbers. -/
  | unbounded
  deriving DecidableEq

namespace Confidence

/-- Not at all. -/
def no : Confidence := value 0

/-- Certain. -/
def certain : Confidence := value 1

/-- Whether a confidence is above zero. -/
def isPositive : Confidence → Bool
  | undefined | unboundedBelow => false
  | value score => decide (0 < score)
  | unbounded => true

/-- Whether a confidence is at most another one. -/
def atMost : Confidence → Confidence → Bool
  | undefined, _ => true
  | unboundedBelow, undefined => false
  | unboundedBelow, _ => true
  | value a, value b => decide (a ≤ b)
  | value _, unbounded => true
  | value _, _ => false
  | unbounded, unbounded => true
  | unbounded, _ => false

end Confidence

end Highlighter
