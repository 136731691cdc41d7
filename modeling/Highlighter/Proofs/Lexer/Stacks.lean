/-
# Stacks as lists

What a transition does to the list of states from the bottom up (`bottomUp_foldl_push`,
`bottomUp_pop`, `bottomUp_replace`), and that it keeps a stack among the states of a table
(`Within.apply`).
-/
import Highlighter.Lexer.Stack

namespace Highlighter

namespace Stack

/-! ## 1. From the bottom up -/

theorem getLast?_bottomUp (s : Stack) : s.bottomUp.getLast? = some s.top := by
  rw [bottomUp, List.getLast?_reverse]
  rfl

theorem bottomUp_ne_nil (s : Stack) : s.bottomUp ≠ [] := by
  intro h
  have := s.getLast?_bottomUp
  rw [h] at this
  cases this

theorem length_bottomUp (s : Stack) : s.bottomUp.length = s.depth := by
  rw [bottomUp, List.length_reverse, depth_eq_length]

theorem mem_bottomUp {s : Stack} {id : StateId} : id ∈ s.bottomUp ↔ id ∈ s.toList :=
  List.mem_reverse

theorem bottomUp_foldl_push (s : Stack) (states : List StateId) :
    (states.foldl push s).bottomUp = s.bottomUp ++ states := by
  rw [bottomUp, toList_foldl_push, List.reverse_append, List.reverse_reverse]
  rfl

theorem bottomUp_push (s : Stack) (state : StateId) :
    (s.push state).bottomUp = s.bottomUp ++ [state] :=
  s.bottomUp_foldl_push [state]

theorem toList_pop (s : Stack) (count : Nat) :
    (s.pop count).toList = s.toList.drop (min count (s.depth - 1)) := by
  induction count generalizing s with
  | zero => simp [pop]
  | succ count ih =>
    obtain ⟨top, below⟩ := s
    cases below with
    | nil => simp [pop, depth]
    | cons state below =>
      have hmin : min (count + 1) (depth ⟨top, state :: below⟩ - 1) =
          min count (depth ⟨state, below⟩ - 1) + 1 := by
        simp only [depth, List.length_cons]
        omega
      rw [pop, ih, hmin]
      rfl

theorem bottomUp_pop (s : Stack) (count : Nat) :
    (s.pop count).bottomUp = s.bottomUp.take (max (s.depth - count) 1) := by
  have hdepth : 1 ≤ s.depth := Nat.succ_pos _
  have hmin : max (s.depth - count) 1 = s.toList.length - min count (s.depth - 1) := by
    rw [depth_eq_length]
    omega
  rw [bottomUp, toList_pop, bottomUp, hmin, List.reverse_drop]

theorem bottomUp_replace (s : Stack) (state : StateId) :
    ({ s with top := state } : Stack).bottomUp = s.bottomUp.dropLast ++ [state] := by
  simp [bottomUp, toList]

/-! ## 2. Among the states of a table -/

/-- Every state on the stack has a position below a bound. -/
def Within (s : Stack) (bound : Nat) : Prop := ∀ id ∈ s.toList, id < bound

theorem within_single {state : StateId} {bound : Nat} (h : state < bound) :
    (single state).Within bound := by
  intro id hid
  obtain rfl := List.mem_singleton.mp hid
  exact h

/-- **A transition to states of the table keeps the stack among them.** -/
theorem Within.apply {s : Stack} {bound : Nat} (h : s.Within bound) {f : Transition StateId}
    (hf : ∀ id ∈ f.targets, id < bound) : (s.apply f).Within bound := by
  intro id hid
  cases f with
  | push states =>
    rw [Stack.apply, toList_foldl_push] at hid
    rcases List.mem_append.mp hid with hid | hid
    · exact hf id (List.mem_reverse.mp hid)
    · exact h id hid
  | pushCurrent =>
    rcases List.mem_cons.mp hid with rfl | hid
    · exact h _ List.mem_cons_self
    · exact h id hid
  | pop count => exact h id (mem_pop hid)
  | replace state =>
    rcases List.mem_cons.mp hid with rfl | hid
    · exact hf _ (List.mem_singleton_self _)
    · exact h id (List.mem_cons_of_mem _ hid)

theorem Within.applyOptional {s : Stack} {bound : Nat} (h : s.Within bound)
    {f? : Option (Transition StateId)} (hf : ∀ f, f? = some f → ∀ id ∈ f.targets, id < bound) :
    (s.applyOptional f?).Within bound := by
  cases f? with
  | none => exact h
  | some f => exact h.apply (hf f rfl)

end Stack

end Highlighter
