/-
# Steps

One step of a lexer looks at the state on top of the stack.  The first rule of it that matches at
the cursor fires; if none does, the state's fallback is applied; and if there is no fallback left to
apply, one character becomes an error token.  `Table.event` says which of these happens,
`Cursor.after` where that leaves the lexer and `Table.emitted` which tokens it gives.

A fallback that shrinks the stack may always be applied.  Any other is applied at most once before
something is consumed (`Cursor.spent`), so a step lessens what is left to read, or that one chance,
or the stack (`after_event_lt`).
-/
import Highlighter.Lexer.Emission
import Highlighter.Lexer.Stack

namespace Highlighter

/-! ## 1. The cursor -/

/-- Where a lexer is in its text. -/
structure Cursor where
  /-- The character just before. -/
  before : Option Char
  /-- The text that has not been consumed. -/
  rest : List Char
  /-- The byte offset of the rest. -/
  offset : Nat
  stack : Stack
  /-- Whether a fallback that does not shrink the stack was applied since a character was
  consumed. -/
  spent : Bool
  deriving DecidableEq

namespace Cursor

/-- At the beginning of a text that has the byte offset `offset`, in a state. -/
def start (state : StateId) (text : List Char) (offset : Nat := 0) : Cursor :=
  ⟨none, text, offset, .single state, false⟩

/-- Consume so many characters. -/
def consume (c : Cursor) (count : Nat) : Cursor :=
  let taken := c.rest.take count
  { c with
    before := taken.getLast? <|> c.before
    rest := c.rest.drop count
    offset := c.offset + byteLength taken
    spent := false }

/-- The quantity that every step lessens: what is left to read, then the chance for a fallback that
does not shrink the stack, then the stack. -/
def measure (c : Cursor) : Nat × Nat × Nat :=
  (c.rest.length, if c.spent then 0 else 1, c.stack.depth)

end Cursor

/-! ## 2. Events -/

/-- What a step does. -/
inductive Event where
  /-- A rule fires. -/
  | rule (rule : TableRule) (m : Match)
  /-- The fallback is applied. -/
  | fallback (transition : Transition StateId)
  /-- A character becomes an error token. -/
  | error
  deriving DecidableEq

/-- The match of a rule at a place; an empty one does not count. -/
def TableRule.match? (r : TableRule) (before : Option Char) (rest : List Char) : Option Match :=
  (r.pattern.match? before rest).filter (0 < ·.length)

/-- The first rule that matches. -/
def firstMatch? (rules : List TableRule) (before : Option Char) (rest : List Char) :
    Option (TableRule × Match) :=
  rules.findSome? fun r => (r.match? before rest).map fun m => (r, m)

/-- Whether a fallback takes states from the stack. -/
def Stack.shrinksBy (s : Stack) : Transition StateId → Bool
  | .pop count => 0 < count && 1 < s.depth
  | _ => false

/-- What the next step does. -/
def Table.event (t : Table) (c : Cursor) : Event :=
  let state := t.state c.stack.top
  match firstMatch? state.rules c.before c.rest with
  | some (r, m) => .rule r m
  | none =>
    match state.fallback with
    | some f => if c.stack.shrinksBy f || !c.spent then .fallback f else .error
    | none => .error

/-- Where an event leaves the cursor. -/
def Cursor.after (c : Cursor) : Event → Cursor
  | .rule r m => { c.consume m.length with stack := c.stack.applyOptional r.transition }
  | .fallback f =>
    { c with stack := c.stack.apply f, spent := c.spent || !c.stack.shrinksBy f }
  | .error => c.consume 1

/-- The tokens of an event. -/
def Cursor.emitted (sub : Option SubLexer) (c : Cursor) : Event → List Token
  | .rule r m => Emission.tokens sub r.action m (c.rest.take m.length) c.offset
  | .fallback _ => []
  | .error => Emission.piece .error (c.rest.take 1) c.offset

/-! ## 3. Every step makes progress -/

theorem TableRule.match?_of_pos {r : TableRule} {before : Option Char} {rest : List Char}
    {m : Match} (hm : r.pattern.match? before rest = some m) (hpos : 0 < m.length) :
    r.match? before rest = some m := by
  rw [TableRule.match?, hm, Option.filter_some, if_pos (decide_eq_true hpos)]

theorem TableRule.length_pos_of_match? {r : TableRule} {before : Option Char} {rest : List Char}
    {m : Match} (h : r.match? before rest = some m) : 0 < m.length := by
  have := Option.filter_eq_some_iff.mp h
  simpa using this.2

theorem firstMatch?_eq_some {rules : List TableRule} {before : Option Char} {rest : List Char}
    {r : TableRule} {m : Match} (h : firstMatch? rules before rest = some (r, m)) :
    r ∈ rules ∧ r.match? before rest = some m := by
  obtain ⟨r', hr', hm⟩ := List.exists_of_findSome?_eq_some h
  obtain ⟨m', hm', heq⟩ := Option.map_eq_some_iff.mp hm
  obtain ⟨rfl, rfl⟩ := Prod.mk.inj heq
  exact ⟨hr', hm'⟩

/-- The order on what is left to do. -/
abbrev Cursor.Less : Nat × Nat × Nat → Nat × Nat × Nat → Prop :=
  Prod.Lex (· < ·) (Prod.Lex (· < ·) (· < ·))

theorem lex_trans {α β : Type} {r : α → α → Prop} {s : β → β → Prop}
    (hr : ∀ {a b c}, r a b → r b c → r a c) (hs : ∀ {a b c}, s a b → s b c → s a c)
    {x y z : α × β} (h : Prod.Lex r s x y) (h' : Prod.Lex r s y z) : Prod.Lex r s x z := by
  cases h with
  | left b₁ b₂ h =>
    cases h' with
    | left _ _ h' => exact .left _ _ (hr h h')
    | right _ _ => exact .left _ _ h
  | right a h =>
    cases h' with
    | left _ _ h' => exact .left _ _ h'
    | right _ h' => exact .right _ (hs h h')

theorem Cursor.less_trans {x y z : Nat × Nat × Nat} (h : Cursor.Less x y)
    (h' : Cursor.Less y z) : Cursor.Less x z :=
  have inner : ∀ {a b c : Nat × Nat}, Prod.Lex (· < ·) (· < ·) a b →
      Prod.Lex (· < ·) (· < ·) b c → Prod.Lex (· < ·) (· < ·) a c :=
    fun {_ _ _} h h' =>
      lex_trans (r := fun m n : Nat => m < n) (s := fun m n : Nat => m < n) Nat.lt_trans
        Nat.lt_trans h h'
  lex_trans (r := fun m n : Nat => m < n) (s := Prod.Lex (· < ·) (· < ·)) Nat.lt_trans inner h h'

theorem Cursor.consume_lt {c : Cursor} (h : c.rest ≠ []) {count : Nat} (hc : 0 < count)
    (stack : Stack) :
    Cursor.Less ({ c.consume count with stack } : Cursor).measure c.measure := by
  apply Prod.Lex.left
  have : 0 < c.rest.length := List.length_pos_iff.mpr h
  simp only [Cursor.consume, List.length_drop]
  omega

/-- A fallback that takes states from the stack shrinks it. -/
theorem Stack.depth_apply_lt {s : Stack} {f : Transition StateId} (h : s.shrinksBy f = true) :
    (s.apply f).depth < s.depth := by
  unfold Stack.shrinksBy at h
  split at h
  · simp only [Bool.and_eq_true, decide_eq_true_eq] at h
    exact Stack.depth_pop_lt _ h.1 h.2
  · cases h

/-- **Every step lessens the measure.** -/
theorem Cursor.after_event_lt (t : Table) {c : Cursor} (h : c.rest ≠ []) :
    Cursor.Less (c.after (t.event c)).measure c.measure := by
  unfold Table.event
  dsimp only
  split
  · rename_i r m hm
    exact consume_lt h ((firstMatch?_eq_some hm).2 |> TableRule.length_pos_of_match?) _
  · split
    · rename_i f _
      split
      · rename_i hf
        by_cases hs : c.stack.shrinksBy f = true
        · have hlt := Stack.depth_apply_lt hs
          simp only [Cursor.after, Cursor.measure, hs, Bool.not_true, Bool.or_false]
          exact Prod.Lex.right _ (Prod.Lex.right _ hlt)
        · have hsp : c.spent = false := by
            simpa [hs] using hf
          simp only [Cursor.after, Cursor.measure, hs, hsp]
          exact Prod.Lex.right _ (Prod.Lex.left _ _ (by decide))
      · exact consume_lt h (by decide) c.stack
    · exact consume_lt h (by decide) c.stack

end Highlighter
