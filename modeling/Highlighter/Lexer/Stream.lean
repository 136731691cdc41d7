/-
# Token streams

A stream gives the tokens of a text one at a time.  It takes a step only when no token is waiting,
and the tokens of one step wait together (`Stream`).  `Stream.next?` is one call; `Stream.run` lists
all tokens, each with the stream as it is after the call that returned it.

Group texts that are lexed by themselves go to a lexer one level deeper, and the deepest level has
none (`Table.subLexer`).
-/
import Highlighter.Lexer.Step

namespace Highlighter

/-- A lexer at work. -/
structure Stream where
  cursor : Cursor
  /-- Tokens that have been found but not yet returned. -/
  pending : List Token
  deriving DecidableEq

namespace Stream

/-- At the beginning of a text. -/
def start (state : StateId) (text : List Char) (offset : Nat := 0) : Stream :=
  ⟨.start state text offset, []⟩

/-- The quantity that every call lessens. -/
def measure (s : Stream) : (Nat × Nat × Nat) × Nat := (s.cursor.measure, s.pending.length)

/-- The order on what is left to do. -/
abbrev Less : (Nat × Nat × Nat) × Nat → (Nat × Nat × Nat) × Nat → Prop :=
  Prod.Lex Cursor.Less (· < ·)

section

variable (t : Table) (sub : Option SubLexer)

/-- One step, with its tokens waiting behind those that wait already. -/
def step (s : Stream) : Stream :=
  let event := t.event s.cursor
  ⟨s.cursor.after event, s.pending ++ s.cursor.emitted sub event⟩

/-- Take steps until a token waits or the text is at its end. -/
def settle (s : Stream) : Stream :=
  if _h : s.pending = [] ∧ s.cursor.rest ≠ [] then settle (s.step t sub) else s
termination_by s.cursor.measure
decreasing_by exact Cursor.after_event_lt t _h.2

/-- One call: the next token, if there is one, and the stream after the call. -/
def next? (s : Stream) : Option (Token × Stream) :=
  let settled := s.settle t sub
  match settled.pending with
  | [] => none
  | token :: pending => some (token, { settled with pending })

theorem settle_of_pending {s : Stream} (h : s.pending ≠ []) : s.settle t sub = s := by
  rw [settle, dif_neg (fun hs => h hs.1)]

theorem settle_of_end {s : Stream} (h : s.cursor.rest = []) : s.settle t sub = s := by
  rw [settle, dif_neg (fun hs => hs.2 h)]

theorem settle_of_step {s : Stream} (hp : s.pending = []) (hr : s.cursor.rest ≠ []) :
    s.settle t sub = (s.step t sub).settle t sub := by
  rw [settle, dif_pos ⟨hp, hr⟩]

/-- Settling a stream without waiting tokens takes a step at least, unless its text is at its
end. -/
theorem settle_cursor_lt (s : Stream) (hp : s.pending = []) (hr : s.cursor.rest ≠ []) :
    Cursor.Less (s.settle t sub).cursor.measure s.cursor.measure := by
  rw [settle_of_step t sub hp hr]
  have hlt := Cursor.after_event_lt t hr
  by_cases h : (s.step t sub).pending = [] ∧ (s.step t sub).cursor.rest ≠ []
  · exact Cursor.less_trans (settle_cursor_lt (s.step t sub) h.1 h.2) hlt
  · rw [settle, dif_neg h]
    exact hlt
termination_by s.cursor.measure
decreasing_by exact Cursor.after_event_lt t hr

/-- **Every call that returns a token lessens the measure.** -/
theorem next?_lt {s s' : Stream} {token : Token} (h : s.next? t sub = some (token, s')) :
    Less s'.measure s.measure := by
  unfold next? at h
  dsimp only at h
  split at h
  · cases h
  · rename_i tok pending heq
    obtain ⟨rfl, rfl⟩ := Prod.mk.inj (Option.some.inj h)
    by_cases hp : s.pending = []
    · by_cases hr : s.cursor.rest = []
      · rw [settle_of_end t sub hr, hp] at heq
        cases heq
      · exact Prod.Lex.left _ _ (settle_cursor_lt t sub s hp hr)
    · rw [settle_of_pending t sub hp] at heq ⊢
      simp only [measure, heq, List.length_cons]
      exact Prod.Lex.right _ (Nat.lt_succ_self _)

/-- All tokens that are left, each with the stream after the call that returns it. -/
def run (s : Stream) : List (Token × Stream) :=
  match _h : s.next? t sub with
  | none => []
  | some (token, s') => (token, s') :: run s'
termination_by s.measure
decreasing_by exact next?_lt t sub _h

theorem run_of_next?_eq_none {s : Stream} (h : s.next? t sub = none) : s.run t sub = [] := by
  rw [run]
  split
  · rfl
  · rename_i heq
    cases h.symm.trans heq

theorem run_of_next?_eq_some {s s' : Stream} {token : Token}
    (h : s.next? t sub = some (token, s')) : s.run t sub = (token, s') :: s'.run t sub := by
  rw [run]
  split
  · rename_i heq
    cases h.symm.trans heq
  · rename_i heq
    obtain ⟨rfl, rfl⟩ := Prod.mk.inj (Option.some.inj (h.symm.trans heq))
    rfl

/-- All tokens that are left. -/
def tokens (s : Stream) : List Token := (s.run t sub).map (·.1)

theorem tokens_of_next?_eq_none {s : Stream} (h : s.next? t sub = none) :
    s.tokens t sub = [] := by
  rw [tokens, run_of_next?_eq_none t sub h, List.map_nil]

theorem tokens_of_next?_eq_some {s s' : Stream} {token : Token}
    (h : s.next? t sub = some (token, s')) : s.tokens t sub = token :: s'.tokens t sub := by
  rw [tokens, run_of_next?_eq_some t sub h, List.map_cons, tokens]

end

end Stream

/-! ## 1. Lexing a text -/

/-- How deeply group texts may be lexed inside one another. -/
def maxSubLexDepth : Nat := 32

namespace Table

/-- Lexes group texts, with so many levels left for groups inside them. -/
def subLexer (t : Table) : (levels : Nat) → Option SubLexer
  | 0 => none
  | levels + 1 => some fun state text offset =>
    (Stream.start state text offset).tokens t (t.subLexer levels)

/-- Lexes the group texts of a whole input. -/
def groupLexer (t : Table) : Option SubLexer := t.subLexer maxSubLexDepth

/-- The tokens of a text, beginning in a state. -/
def tokenizeFrom (t : Table) (state : StateId) (text : List Char) : List Token :=
  (Stream.start state text).tokens t t.groupLexer

/-- The tokens of a text. -/
def tokenize (t : Table) (text : List Char) : List Token := t.tokenizeFrom t.initial text

end Table

end Highlighter
