/-
# Reachable states

The states that lexing can ever come to: those reached from the initial state by includes,
transitions and groups that are lexed by themselves (`Grammar.reachable`).
-/
import Highlighter.Grammar.Basic

namespace Highlighter

/-- The states that an entry refers to. -/
def Entry.references : Entry → List String
  | .include state => [state]
  | .rule r =>
    (match r.transition with
      | some transition => transition.targets
      | none => []) ++ r.action.targets

/-- The states that a state refers to. -/
def State.references (s : State) : List String :=
  s.entries.flatMap Entry.references ++
    match s.fallback with
    | some transition => transition.targets
    | none => []

/-- A count falls if one element stops counting and none starts to. -/
theorem countP_lt_countP {α : Type} {p q : α → Bool} {l : List α}
    (h : ∀ x ∈ l, p x = true → q x = true) {x : α} (hx : x ∈ l) (hq : q x = true)
    (hp : p x = false) : l.countP p < l.countP q := by
  induction l with
  | nil => cases hx
  | cons y l ih =>
    have hle : l.countP p ≤ l.countP q :=
      List.countP_mono_left fun z hz => h z (List.mem_cons_of_mem _ hz)
    rw [List.countP_cons, List.countP_cons]
    rcases List.mem_cons.mp hx with rfl | hx
    · simp only [hp, hq, if_true]
      simpa using Nat.lt_succ_of_le hle
    · have ih := ih (fun z hz => h z (List.mem_cons_of_mem _ hz)) hx
      have hy := h y List.mem_cons_self
      by_cases hpy : p y = true
      · rw [if_pos hpy, if_pos (hy hpy)]; omega
      · rw [if_neg hpy]; split <;> omega

namespace Grammar

/-- The number of declared states whose names are not in a list. -/
def unseen (g : Grammar) (seen : List String) : Nat :=
  g.states.countP fun s => decide (s.name ∉ seen)

theorem unseen_cons_le (g : Grammar) (seen : List String) (name : String) :
    g.unseen (name :: seen) ≤ g.unseen seen := by
  refine List.countP_mono_left fun s _ h => ?_
  have h : s.name ∉ name :: seen := by simpa using h
  simpa using fun hs => h (List.mem_cons_of_mem _ hs)

/-- Seeing a declared state for the first time leaves fewer unseen. -/
theorem unseen_cons_lt (g : Grammar) {seen : List String} {name : String} {s : State}
    (hs : g.state? name = some s) (hn : name ∉ seen) :
    g.unseen (name :: seen) < g.unseen seen := by
  have hmem : s ∈ g.states := List.mem_of_find?_eq_some hs
  have hname : s.name = name := by simpa using List.find?_some hs
  refine countP_lt_countP (fun t _ h => ?_) hmem (by simpa [hname] using hn) (by simp [hname])
  have h : t.name ∉ name :: seen := by simpa using h
  simpa using fun hs => h (List.mem_cons_of_mem _ hs)

/-- The names in `seen`, and those reached from the names in `queue`. -/
def explore (g : Grammar) (seen : List String) : (queue : List String) → List String
  | [] => seen
  | name :: queue =>
    if name ∈ seen then g.explore seen queue
    else
      match _h : g.state? name with
      | none => g.explore (name :: seen) queue
      | some s => g.explore (name :: seen) (queue ++ s.references)
termination_by queue => (g.unseen seen, queue.length)
decreasing_by
  · exact Prod.Lex.right _ (Nat.lt_succ_self _)
  · rcases Nat.lt_or_eq_of_le (unseen_cons_le g seen name) with h | h
    · exact Prod.Lex.left _ _ h
    · rw [h]; exact Prod.Lex.right _ (Nat.lt_succ_self _)
  · exact Prod.Lex.left _ _ (unseen_cons_lt g _h ‹_›)

/-- The names of the states that lexing can come to, undeclared names included. -/
def reachable (g : Grammar) : List String := g.explore [] [g.initial]

end Grammar

end Highlighter
