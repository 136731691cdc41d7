/-
# What a pattern's text tells about its matches

Static facts about patterns: the least number of characters that a match takes
(`Pattern.minLength`), how many groups can take part (`Pattern.groupCount`) and how large the
pattern is once its counts are written out (`Pattern.weight`), about as many bytes of memory as an
automaton for it would take.

A pattern that can never match, such as a set without members, has no least length, and neither has
anything built from it: a sequence, a choice, and a repetition, though this one matches the empty
text.  What counts is which parts are left in the simplified pattern.
-/
import Highlighter.Regex.Simplify

namespace Highlighter

namespace Property

/-- The code points at which a stretch of the class begins. -/
def starts (p : Property) : List Nat :=
  let member (n : Nat) : Bool := decide n.isValidChar && p.holds (Char.ofNat n)
  ((0 :: p.breaks).filter fun n => member n && (n == 0 || !member (n - 1))).eraseDups

end Property

namespace Pattern

/-! ## 1. Length -/

/-- Whether a set without members is left once repetitions that never run are dropped. -/
def blocked : Pattern → Bool
  | empty => false
  | set s => s.isEmpty
  | look _ => false
  | seq p q => p.blocked || q.blocked
  | alt p q => p.blocked || q.blocked
  | repeated p min max _ => !p.neverRuns min max && p.blocked
  | group _ p => p.blocked

/-- The least number of characters that a match takes, if each set has a member. -/
def floor : Pattern → Nat
  | empty => 0
  | set _ => 1
  | look _ => 0
  | seq p q => p.floor + q.floor
  | alt p q => min p.floor q.floor
  | repeated p min _ _ => min * p.floor
  | group _ p => p.floor

/-- The least number of characters that a match takes, as far as the form of the simplified pattern
tells. -/
def minLength (p : Pattern) : Option Nat :=
  if p.simplify.blocked then none else some p.simplify.floor

/-! ## 2. Groups -/

/-- The number of groups, those in repetitions that never run left out. -/
def groupCount : Pattern → Nat
  | empty => 0
  | set _ => 0
  | look _ => 0
  | seq p q => p.groupCount + q.groupCount
  | alt p q => p.groupCount + q.groupCount
  | repeated p min max _ => if p.neverRuns min max then 0 else p.groupCount
  | group _ p => p.groupCount + 1

/-! ## 3. Size -/

/-- The size of one state of an automaton. -/
def stateWeight : Nat := 32

/-- A pattern heavier than this is refused. -/
def maxWeight : Nat := 10485760

/-- The number of states for a named class: about two for each stretch of its characters, as an
automaton goes through their bytes.  Those of the classes with an escape of their own have been
counted beforehand. -/
def propertyStates : Property → Nat
  | .word => 1500
  | .digit => 160
  | .space => 24
  | p => 2 * p.starts.length

/-- The states for every sequence of bytes that stands for a character. -/
def allStates : Nat := 28

/-- The number of states for a class of characters. -/
def setStates : CharSet → Nat
  | .empty => 1
  | .range first last =>
    if first = last then first.utf8Size
    else if last.toNat < 0x80 then 2
    else 8
  | .property p => propertyStates p
  | .union a b | .inter a b | .diff a b | .symmDiff a b => setStates a + setStates b
  | .compl a => setStates a + allStates
  | .anyCase a => 2 * setStates a
  | .anyAsciiCase a => 2 * setStates a

/-- The size of a pattern once its counts are written out. -/
def weight : Pattern → Nat
  | empty => stateWeight
  | set s => setStates s * stateWeight
  | look _ => stateWeight
  | seq p q => p.weight + q.weight
  | alt p q => p.weight + q.weight + stateWeight
  | repeated p min max _ =>
    match p.bounds min max with
    | (min, some max) => max * p.weight + (max - min + 1) * stateWeight
    | (min, none) => Max.max min 1 * p.weight + stateWeight
  | group _ p => p.weight + 2 * stateWeight

end Pattern

end Highlighter
