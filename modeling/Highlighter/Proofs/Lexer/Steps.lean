/-
# How many steps lexing takes

A step may consume nothing and may let the stack grow, so neither the text nor the stack counts the
steps that are left.  Together with the one chance for a fallback that does not shrink the stack
they do (`Cursor.potential`): a character is worth two growths of the stack, the chance is worth
one, and whatever a step spends, it gains less (`potential_after_event_lt`).  So the steps of a
lexer are at most linear in the length of its text.
-/
import Highlighter.Lexer.Step
import Highlighter.Proofs.Lexer.Stacks

namespace Highlighter

/-! ## 1. How much the stack may grow -/

namespace Transition

/-- How many states a transition puts on a stack. -/
def growth {σ : Type} : Transition σ → Nat
  | .push states => states.length
  | .pushCurrent => 1
  | .pop _ => 0
  | .replace _ => 0

end Transition

theorem Stack.depth_apply_le (s : Stack) (f : Transition StateId) :
    (s.apply f).depth ≤ s.depth + f.growth := by
  cases f with
  | push states =>
    rw [Stack.apply, ← Stack.depth_eq_length, toList_foldl_push, List.length_append,
      List.length_reverse, depth_eq_length, Transition.growth]
    omega
  | pushCurrent => exact Nat.le_refl _
  | pop count =>
    have := s.depth_pop count
    have : 1 ≤ s.depth := Nat.succ_pos _
    rw [Stack.apply, Transition.growth]
    omega
  | replace state => exact Nat.le_refl _

/-- The transitions of a state's rules and its fallback. -/
def TableState.transitions (s : TableState) : List (Transition StateId) :=
  s.rules.filterMap (·.transition) ++ s.fallback.toList

namespace Table

/-- The transitions of all states. -/
def transitions (t : Table) : List (Transition StateId) := t.states.flatMap (·.transitions)

/-- The most states that one transition of the table puts on a stack. -/
def growth (t : Table) : Nat := (t.transitions.map Transition.growth).foldr max 0

theorem growth_le {t : Table} {f : Transition StateId} (h : f ∈ t.transitions) :
    f.growth ≤ t.growth := by
  unfold growth
  generalize t.transitions = fs at h
  induction fs with
  | nil => cases h
  | cons first fs ih =>
    rw [List.map_cons, List.foldr_cons]
    rcases List.mem_cons.mp h with rfl | h
    · exact Nat.le_max_left _ _
    · exact Nat.le_trans (ih h) (Nat.le_max_right _ _)

/-- What a position without a state stands for has no transitions. -/
theorem mem_transitions {t : Table} {id : StateId} {f : Transition StateId}
    (h : f ∈ (t.state id).transitions) : f ∈ t.transitions := by
  unfold state at h
  cases hs : t.states[id]? with
  | none =>
    rw [hs] at h
    cases h
  | some s =>
    rw [hs, Option.getD_some] at h
    exact List.mem_flatMap.mpr ⟨s, List.mem_of_getElem? hs, h⟩

theorem growth_rule_le {t : Table} {id : StateId} {r : TableRule} (h : r ∈ (t.state id).rules)
    {f : Transition StateId} (hf : r.transition = some f) : f.growth ≤ t.growth :=
  growth_le (mem_transitions (List.mem_append_left _ (List.mem_filterMap.mpr ⟨r, h, hf⟩)))

theorem growth_fallback_le {t : Table} {id : StateId} {f : Transition StateId}
    (hf : (t.state id).fallback = some f) : f.growth ≤ t.growth :=
  growth_le (mem_transitions (List.mem_append_right _ (Option.mem_toList.mpr hf)))

end Table

/-! ## 2. Every step costs something -/

namespace Cursor

/-- What is left for steps, with a table whose transitions put at most `growth` states on the
stack. -/
def potential (growth : Nat) (c : Cursor) : Nat :=
  (growth + 1) * (2 * c.rest.length + (!c.spent).toNat) + c.stack.depth

/-- What costs a unit pays for the growth of the stack. -/
theorem mul_add_lt {growth i j d e : Nat} (hij : i < j) (hde : d ≤ e + growth) :
    (growth + 1) * i + d < (growth + 1) * j + e := by
  have hmul := Nat.mul_le_mul_left (growth + 1) (Nat.succ_le_of_lt hij)
  rw [Nat.mul_succ] at hmul
  omega

theorem potential_consume_lt {growth : Nat} {c : Cursor} (hr : c.rest ≠ []) {count : Nat}
    (hcount : 0 < count) {stack : Stack} (hstack : stack.depth ≤ c.stack.depth + growth) :
    ({ c.consume count with stack } : Cursor).potential growth < c.potential growth := by
  have hlen : 0 < c.rest.length := List.length_pos_iff.mpr hr
  refine mul_add_lt ?_ hstack
  simp only [consume, List.length_drop, Bool.not_false, Bool.toNat_true]
  omega

/-- **Every step costs something**: what it consumes, or the chance for a fallback, or states of
the stack. -/
theorem potential_after_event_lt (t : Table) {c : Cursor} (hr : c.rest ≠ []) :
    (c.after (t.event c)).potential t.growth < c.potential t.growth := by
  have herror : (c.consume 1).potential t.growth < c.potential t.growth :=
    potential_consume_lt hr Nat.zero_lt_one (Nat.le_add_right _ _)
  unfold Table.event
  dsimp only
  split
  · rename_i r m hm
    obtain ⟨hrule, hmatch⟩ := firstMatch?_eq_some hm
    refine potential_consume_lt hr (TableRule.length_pos_of_match? hmatch) ?_
    cases hf : r.transition with
    | none => exact Nat.le_add_right _ _
    | some f =>
      have := c.stack.depth_apply_le f
      have := Table.growth_rule_le hrule hf
      rw [Stack.applyOptional]
      omega
  · split
    · rename_i f hf
      split
      · rename_i hnow
        by_cases hsh : c.stack.shrinksBy f = true
        · have hlt := Stack.depth_apply_lt hsh
          simp only [after, potential, hsh, Bool.not_true, Bool.or_false]
          omega
        · rw [Bool.not_eq_true] at hsh
          have hspent : c.spent = false := by
            simpa [hsh] using hnow
          have hdepth := c.stack.depth_apply_le f
          have hgrowth := Table.growth_fallback_le hf
          have hchance : 2 * c.rest.length + (!true).toNat <
              2 * c.rest.length + (!c.spent).toNat := by
            rw [hspent]
            exact Nat.lt_succ_self _
          have hafter : c.after (.fallback f) =
              { c with stack := c.stack.apply f, spent := true } := by
            simp only [after, hsh, Bool.not_false, Bool.or_true]
          rw [hafter]
          exact mul_add_lt hchance (Nat.le_trans hdepth (Nat.add_le_add_left hgrowth _))
      · exact herror
    · exact herror

end Cursor

end Highlighter
