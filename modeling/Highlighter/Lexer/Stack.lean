/-
# The stack of states

A lexer is always in some state, so its stack has a bottom that is never taken away (`Stack`).
`Stack.apply` carries a transition out.
-/
import Highlighter.Lexer.Table

namespace Highlighter

/-- A stack that is never empty. -/
structure Stack where
  top : StateId
  /-- What is under the top, the nearest first. -/
  below : List StateId
  deriving DecidableEq

namespace Stack

/-- The stack of one state. -/
def single (state : StateId) : Stack := ⟨state, []⟩

/-- All states, the top first. -/
def toList (s : Stack) : List StateId := s.top :: s.below

/-- All states, the bottom first. -/
def bottomUp (s : Stack) : List StateId := s.toList.reverse

/-- The number of states. -/
def depth (s : Stack) : Nat := s.below.length + 1

/-- Put a state on top. -/
def push (s : Stack) (state : StateId) : Stack := ⟨state, s.toList⟩

/-- Take so many states away, but never the bottom one. -/
def pop (s : Stack) : (count : Nat) → Stack
  | 0 => s
  | count + 1 =>
    match s with
    | ⟨_, []⟩ => s
    | ⟨_, state :: below⟩ => pop ⟨state, below⟩ count

/-- Carry a transition out. -/
def apply (s : Stack) : Transition StateId → Stack
  | .push states => states.foldl push s
  | .pushCurrent => s.push s.top
  | .pop count => s.pop count
  | .replace state => { s with top := state }

/-- Carry a transition out, if there is one. -/
def applyOptional (s : Stack) : Option (Transition StateId) → Stack
  | none => s
  | some transition => s.apply transition

/-! ## 1. What a transition does to the list of states -/

@[simp] theorem toList_single (state : StateId) : (single state).toList = [state] := rfl

@[simp] theorem toList_push (s : Stack) (state : StateId) :
    (s.push state).toList = state :: s.toList := rfl

@[simp] theorem depth_eq_length (s : Stack) : s.toList.length = s.depth := rfl

theorem toList_foldl_push (states : List StateId) (s : Stack) :
    (states.foldl push s).toList = states.reverse ++ s.toList := by
  induction states generalizing s with
  | nil => rfl
  | cons state states ih => simp [ih]

/-- Popping leaves the bottom at least. -/
theorem depth_pop (s : Stack) (count : Nat) : (s.pop count).depth = max (s.depth - count) 1 := by
  induction count generalizing s with
  | zero => simp [pop, depth]
  | succ count ih =>
    obtain ⟨top, below⟩ := s
    cases below with
    | nil => simp [pop, depth]
    | cons state below =>
      simp only [pop, ih]
      simp [depth]

/-- **A pop shrinks a stack of two or more.** -/
theorem depth_pop_lt (s : Stack) {count : Nat} (h : 0 < count) (hs : 1 < s.depth) :
    (s.pop count).depth < s.depth := by
  rw [depth_pop]
  omega

theorem mem_pop {s : Stack} {count : Nat} {state : StateId} (h : state ∈ (s.pop count).toList) :
    state ∈ s.toList := by
  induction count generalizing s with
  | zero => simpa [pop] using h
  | succ count ih =>
    obtain ⟨top, below⟩ := s
    cases below with
    | nil => simpa [pop] using h
    | cons next below =>
      have := ih (s := ⟨next, below⟩) (by simpa [pop] using h)
      exact List.mem_cons_of_mem _ this

end Stack

end Highlighter
