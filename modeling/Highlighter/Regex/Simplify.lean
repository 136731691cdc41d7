/-
# Simplifying patterns

A pattern is simplified as it is built (`Pattern.simplify`).  Repetitions that never run and the
empty parts of a sequence are dropped, a sequence in a sequence and a choice in a choice are taken
apart, a choice between sets is one set, and what all sides of a choice begin with is taken out of
it.

All this leaves the matches as they are.  What it changes is **which parts are left**: a set without
members is gone once it is united with another set, and what is built from it can match then.
-/
import Highlighter.Regex.Pattern

namespace Highlighter

/-- Whether two sets have the same members. -/
def CharSet.isSame (s t : CharSet) : Bool := (symmDiff s t).isEmpty

namespace Pattern

/-! ## 1. Repetitions of the empty text -/

/-- Whether every match is known to be empty. -/
def onlyEmpty : Pattern → Bool
  | empty => true
  | set _ => false
  | look _ => true
  | seq p q => p.onlyEmpty && q.onlyEmpty
  | alt p q => p.onlyEmpty && q.onlyEmpty
  | repeated p min max _ => p.onlyEmpty || (min == 0 && max == some 0)
  | group _ p => p.onlyEmpty

/-- The bounds of a repetition, cut to at most one iteration if each of them is empty. -/
def bounds (p : Pattern) (min : Nat) (max : Option Nat) : Nat × Option Nat :=
  if p.onlyEmpty then (Min.min min 1, some ((max.map (Min.min · 1)).getD 1)) else (min, max)

/-- Whether a repetition never runs. -/
def neverRuns (p : Pattern) (min : Nat) (max : Option Nat) : Bool :=
  p.bounds min max == (0, some 0)

/-! ## 2. Sequences -/

/-- The parts of a sequence, through sequences inside it and without empty ones. -/
def parts : Pattern → List Pattern
  | empty => []
  | seq p q => p.parts ++ q.parts
  | p => [p]

/-- The set that a pattern is, if it is one. -/
def asSet? : Pattern → Option CharSet
  | set s => some s
  | _ => none

/-- Whether the pattern is a single character. -/
def isChar (p : Pattern) : Bool := p.asSet?.any fun s => s.isSingle

/-- Whether the pattern is any other set. -/
def isClass (p : Pattern) : Bool := p.asSet?.any fun s => !s.isSingle

/-- The parts of a sequence, where characters next to each other are one part. -/
def elements (p : Pattern) : List Pattern :=
  (p.parts.splitBy fun a b => a.isChar && b.isChar).map concat

/-- Patterns one after the other, as one sequence. -/
def joined (ps : List Pattern) : Pattern := concat (ps.flatMap parts)

/-! ## 3. Choices -/

/-- The sides of a choice, through choices inside it. -/
def alternatives : Pattern → List Pattern
  | alt p q => p.alternatives ++ q.alternatives
  | p => [p]

/-- Whether two patterns are the same, but for the way their sets are written. -/
def alike : Pattern → Pattern → Bool
  | empty, empty => true
  | set s, set t => s.isSame t
  | look a, look b => a == b
  | seq p q, seq p' q' => p.alike p' && q.alike q'
  | alt p q, alt p' q' => p.alike p' && q.alike q'
  | repeated p min max greedy, repeated p' min' max' greedy' =>
    p.alike p' && min == min' && max == max' && greedy == greedy'
  | group i p, group j q => i == j && p.alike q
  | _, _ => false

/-- How many patterns two lists have in common at their beginning. -/
def commonLength (ps qs : List Pattern) : Nat :=
  ((ps.zip qs).takeWhile fun (p, q) => p.alike q).length

/-- How many elements all lists begin with.  A single element is no sequence. -/
def sharedLength (first : List Pattern) (others : List (List Pattern)) : Nat :=
  if (first :: others).all (2 ≤ ·.length) then
    (others.map (commonLength first)).foldl min first.length
  else 0

/-- A choice between sides of which none is a choice.  Characters only, or other sets only, are
one set. -/
def united (ps : List Pattern) : Pattern :=
  if ps.all isChar || ps.all isClass then set (.unions (ps.filterMap asSet?)) else choice ps

/-- A choice between sides of which none is a choice.  One side is taken as it is, and what all
sides begin with is taken out. -/
def chosen : List Pattern → Pattern
  | [] => empty
  | [p] => p
  | p :: ps =>
    let shared := sharedLength p.elements (ps.map elements)
    if shared = 0 then united (p :: ps)
    else
      let rests := (p :: ps).map fun q => joined (q.elements.drop shared)
      joined (p.elements.take shared ++ [united (rests.flatMap alternatives)])

/-! ## 4. Whole patterns -/

/-- The sides of a simplified pattern, itself if it is no choice.  The left side of a choice may be
a choice of its own; the right side is the rest of the same choice. -/
def sides : Pattern → List Pattern
  | alt p q => (chosen p.sides).alternatives ++ q.sides
  | seq p q => (joined [chosen p.sides, chosen q.sides]).alternatives
  | repeated p min max greedy =>
    match p.bounds min max with
    | (0, some 0) => [empty]
    | (1, some 1) => (chosen p.sides).alternatives
    | (min, max) => [repeated (chosen p.sides) min max greedy]
  | group index p => [group index (chosen p.sides)]
  | p => [p]

/-- The pattern as it is built. -/
def simplify (p : Pattern) : Pattern := chosen p.sides

end Pattern

end Highlighter
