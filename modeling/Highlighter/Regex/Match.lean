/-
# Matching

Where a pattern can end when it begins at a given place (`Pattern.ends`): a list of outcomes, the
preferred one first, with at most one outcome for each end.  Dropping all but the first outcome at
an end loses nothing, as what follows in a pattern depends only on the place where it starts; it
also keeps the list no longer than the text.

A repetition runs an iteration again only if the one before consumed something.  Its first iteration
may be empty, and then the repetition is over.

`Pattern.match?` takes the preferred outcome.
-/
import Highlighter.Regex.Place

namespace Highlighter

/-! ## 1. Sets of places -/

/-- A set of numbers that lie close together: those at a distance above `base` for which a bit
is set. -/
structure IndexSet where
  base : Nat
  bits : Nat

namespace IndexSet

def empty : IndexSet := ⟨0, 0⟩

def contains (s : IndexSet) (i : Nat) : Bool := decide (s.base ≤ i) && s.bits.testBit (i - s.base)

def insert (s : IndexSet) (i : Nat) : IndexSet :=
  if s.bits = 0 then ⟨i, 1⟩
  else if s.base ≤ i then ⟨s.base, s.bits ||| 1 <<< (i - s.base)⟩
  else ⟨i, s.bits <<< (s.base - i) ||| 1⟩

@[simp] theorem contains_empty (i : Nat) : empty.contains i = false := by
  simp [contains, empty]

theorem testBit_one (i : Nat) : Nat.testBit 1 i = decide (i = 0) := by
  cases i <;> simp [Nat.testBit_succ]

@[simp] theorem contains_insert (s : IndexSet) (i j : Nat) :
    (s.insert i).contains j = (s.contains j || decide (i = j)) := by
  unfold insert
  split
  · rename_i h
    simp only [contains, h, Nat.zero_testBit, Bool.and_false, Bool.false_or, testBit_one]
    by_cases hj : i = j
    · subst hj
      simp
    · by_cases hle : i ≤ j
      · have : ¬ j - i = 0 := by omega
        simp [hj, this]
      · simp [hj, hle]
  · split
    · rename_i h
      simp only [contains, Nat.testBit_or, Nat.one_shiftLeft, Nat.testBit_two_pow]
      by_cases hj : s.base ≤ j
      · have : (i - s.base = j - s.base) ↔ i = j := by omega
        simp [hj, this]
      · have : i ≠ j := by omega
        simp [hj, this]
    · rename_i h
      simp only [contains, Nat.testBit_or, Nat.testBit_shiftLeft, testBit_one]
      by_cases hj : i ≤ j
      · by_cases hb : s.base ≤ j
        · have h₁ : s.base - i ≤ j - i := by omega
          have h₂ : j - i - (s.base - i) = j - s.base := by omega
          have h₃ : ¬ j - i = 0 := by omega
          have h₄ : i ≠ j := by omega
          simp [hj, hb, h₁, h₂, h₃, h₄]
        · have h₁ : ¬ s.base - i ≤ j - i := by omega
          have h₂ : j - i = 0 ↔ i = j := by omega
          simp [hj, hb, h₁, h₂]
      · have h₁ : ¬ s.base ≤ j := by omega
        have h₂ : i ≠ j := by omega
        simp [hj, h₁, h₂]

end IndexSet

/-! ## 2. Outcomes -/

/-- The characters that a group took, counted from where the match began. -/
structure Capture where
  group : Nat
  start : Nat
  stop : Nat
  deriving DecidableEq

/-- A place that a match has come to, with the groups closed on the way, the latest first. -/
structure Progress where
  place : Place
  captures : List Capture
  deriving DecidableEq

namespace Progress

/-- Characters consumed since the match began. -/
def index (p : Progress) : Nat := p.place.index

/-- Close a group that was opened at `start`. -/
def close (p : Progress) (group start : Nat) : Progress :=
  { p with captures := ⟨group, start, p.index⟩ :: p.captures }

end Progress

/-- Keep the first outcome at each end, leaving out the ends in `seen`. -/
def distinctFrom (seen : IndexSet) : List Progress → List Progress
  | [] => []
  | o :: os =>
    if seen.contains o.index then distinctFrom seen os
    else o :: distinctFrom (seen.insert o.index) os

/-- Keep the first outcome at each end. -/
def distinct (os : List Progress) : List Progress := distinctFrom .empty os

/-- Go on from each of the outcomes.  What follows a single outcome has no end twice. -/
def goOn (os : List Progress) (next : Progress → List Progress) : List Progress :=
  match os with
  | [] => []
  | [o] => next o
  | os => distinct (os.flatMap next)

/-- The outcomes of two ways, those of the first one preferred. -/
def orElse (os others : List Progress) : List Progress :=
  match os, others with
  | [], _ => others
  | _, [] => os
  | _, _ => distinct (os ++ others)

/-! ## 3. Repetition -/

/-- What a repetition has found so far. -/
structure Found where
  /-- The ends already dealt with. -/
  seen : IndexSet
  /-- The outcomes, the least preferred first. -/
  outcomes : List Progress

namespace Found

def none : Found := ⟨.empty, []⟩

/-- Add an outcome, unless there is one with the same end. -/
def add (f : Found) (o : Progress) : Found :=
  if f.seen.contains o.index then f else ⟨f.seen.insert o.index, o :: f.outcomes⟩

end Found

section Repetition

variable (body : Progress → List Progress) (greedy : Bool)

/-- All ways to go on or stop after an iteration that ended at `o` and consumed something.  Every
further iteration has to consume something too, so the text in front of the first one is enough
`fuel`. -/
def iterateFrom : (fuel : List Char) → Found → Progress → Found
  | [], f, _ => f
  | _ :: fuel, f, o =>
    if f.seen.contains o.index then f
    else
      let opened : Found := ⟨f.seen.insert o.index, if greedy then f.outcomes else o :: f.outcomes⟩
      let g := (body o).foldl
        (fun f q => if q.index == o.index then f else iterateFrom fuel f q) opened
      if greedy then ⟨g.seen, o :: g.outcomes⟩ else g

/-- One or more iterations. -/
def oneOrMore (f : Found) (p : Progress) : Found :=
  (body p).foldl
    (fun f o =>
      if o.index == p.index then f.add o
      else iterateFrom body greedy p.place.rest f o)
    f

/-- Any number of iterations. -/
def zeroOrMore (p : Progress) : Found :=
  if greedy then (oneOrMore body greedy .none p).add p
  else oneOrMore body greedy (Found.none.add p) p

/-- What a repetition with an upper bound has found so far, with the ends already dealt with for
each number of iterations left, the largest number first. -/
structure FoundUpTo where
  seen : List IndexSet
  outcomes : List Progress

/-- At most `left` more iterations after reaching `o`. -/
def upTo : (left : Nat) → FoundUpTo → Progress → FoundUpTo
  | 0, f, o => ⟨f.seen, o :: f.outcomes⟩
  | left + 1, f, o =>
    let here := f.seen.headD .empty
    if here.contains o.index then f
    else
      let opened : FoundUpTo := ⟨f.seen.tail, if greedy then f.outcomes else o :: f.outcomes⟩
      let g := (body o).foldl (upTo left) opened
      ⟨here.insert o.index :: g.seen, if greedy then o :: g.outcomes else g.outcomes⟩

/-- Exactly `n` iterations from each of the outcomes. -/
def exactly : (n : Nat) → List Progress → List Progress
  | 0, os => os
  | _ + 1, [] => []
  | n + 1, o :: os => exactly n (goOn (o :: os) body)

/-- At least `min` and at most `max` iterations. -/
def iterations (min : Nat) (max : Option Nat) (p : Progress) : List Progress :=
  match max with
  | some max =>
    goOn (exactly body min [p]) fun q =>
      distinct (upTo body greedy (max - min) ⟨[], []⟩ q).outcomes.reverse
  | none =>
    match min with
    | 0 => (zeroOrMore body greedy p).outcomes.reverse
    | min + 1 =>
      goOn (exactly body min [p]) fun q => (oneOrMore body greedy .none q).outcomes.reverse

end Repetition

/-! ## 4. Patterns -/

namespace Pattern

/-- Where a pattern can end, the preferred way first. -/
def ends : Pattern → Progress → List Progress
  | empty, p => [p]
  | set s, p =>
    match p.place.next? with
    | some (c, place) => if s.contains c then [{ p with place }] else []
    | none => []
  | look a, p => if a.holds p.place then [p] else []
  | seq a b, p => goOn (a.ends p) b.ends
  | alt a b, p => orElse (a.ends p) (b.ends p)
  | repeated a min max greedy, p => iterations a.ends greedy min max p
  | group i a, p => (a.ends p).map fun q => q.close i p.index

end Pattern

/-- A match: how many characters it took, and what its groups took, the latest first. -/
structure Match where
  length : Nat
  captures : List Capture
  deriving DecidableEq

namespace Match

/-- The first and the last bound of what a group took, if it took part.  A group that took part
more than once keeps what it took last. -/
def span? (m : Match) (group : Nat) : Option (Nat × Nat) :=
  (m.captures.find? (·.group == group)).map fun c => (c.start, c.stop)

end Match

namespace Pattern

/-- The preferred match of a pattern that begins just before `rest`. -/
def match? (p : Pattern) (before : Option Char) (rest : List Char) : Option Match :=
  (p.ends ⟨.start before rest, []⟩).head?.map fun o => ⟨o.index, o.captures⟩

end Pattern

end Highlighter
