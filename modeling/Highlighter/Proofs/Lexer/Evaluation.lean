/-
# Lexing as a recursion on the number of steps

A stream calls itself on a measure, which is fine to reason with but cannot be computed with in a
proof.  Its steps are also bounded by a number (`Cursor.potential`), and with that many steps
allowed, **the steps give all tokens** (`tokens_eq_tokensWithin`), in lexers for group texts as well
(`subLexer_eq_subLexerWithin`).  So what a table makes of a given text can be evaluated
(`Table.tokenize_eq_tokenizeWithin`).
-/
import Highlighter.Proofs.Lexer.Steps
import Highlighter.Lexer.Stream

namespace Highlighter

/-! ## 1. The tokens of steps -/

namespace Stream

variable (t : Table) (sub : Option SubLexer)

/-- The tokens that wait come first. -/
theorem tokens_of_pending (c : Cursor) (pending : List Token) :
    (⟨c, pending⟩ : Stream).tokens t sub = pending ++ (⟨c, []⟩ : Stream).tokens t sub := by
  induction pending with
  | nil => rfl
  | cons token pending ih =>
    have hnext : (⟨c, token :: pending⟩ : Stream).next? t sub = some (token, ⟨c, pending⟩) := by
      unfold next?
      rw [settle_of_pending t sub (List.cons_ne_nil token pending)]
    rw [tokens_of_next?_eq_some t sub hnext, ih, List.cons_append]

/-- At the end of the text nothing is left. -/
theorem tokens_of_end {c : Cursor} (hr : c.rest = []) : (⟨c, []⟩ : Stream).tokens t sub = [] := by
  refine tokens_of_next?_eq_none t sub ?_
  unfold next?
  rw [settle_of_end t sub hr]

/-- With no token waiting, the tokens are those after the next step. -/
theorem tokens_of_step {s : Stream} (hp : s.pending = []) (hr : s.cursor.rest ≠ []) :
    s.tokens t sub = (s.step t sub).tokens t sub := by
  have hnext : s.next? t sub = (s.step t sub).next? t sub := by
    unfold next?
    rw [settle_of_step t sub hp hr]
  cases h : (s.step t sub).next? t sub with
  | none => rw [tokens_of_next?_eq_none t sub h, tokens_of_next?_eq_none t sub (hnext.trans h)]
  | some found =>
    rw [tokens_of_next?_eq_some t sub h, tokens_of_next?_eq_some t sub (hnext.trans h)]

end Stream

namespace Cursor

/-- The tokens of the next steps, of so many at most. -/
def tokensWithin (t : Table) (sub : Option SubLexer) : (steps : Nat) → Cursor → List Token
  | 0, _ => []
  | steps + 1, c =>
    if c.rest = [] then []
    else c.emitted sub (t.event c) ++ tokensWithin t sub steps (c.after (t.event c))

/-- **So many steps as the potential allows give all tokens.** -/
theorem tokens_eq_tokensWithin {t : Table} {sub : Option SubLexer} {steps : Nat} {c : Cursor}
    (h : c.potential t.growth ≤ steps) :
    (⟨c, []⟩ : Stream).tokens t sub = c.tokensWithin t sub steps := by
  induction steps generalizing c with
  | zero =>
    have hdepth : 1 ≤ c.potential t.growth :=
      Nat.le_trans (Nat.succ_pos _) (Nat.le_add_left _ _)
    omega
  | succ steps ih =>
    rw [tokensWithin]
    split
    · rename_i hr
      exact Stream.tokens_of_end t sub hr
    · rename_i hr
      have hlt := potential_after_event_lt t hr
      rw [Stream.tokens_of_step t sub rfl hr, ← ih (Nat.le_of_lt_succ (Nat.lt_of_lt_of_le hlt h))]
      exact Stream.tokens_of_pending t sub _ _

end Cursor

/-! ## 2. The tokens of a text -/

namespace Table

variable (t : Table)

/-- The tokens of a text at a byte offset, beginning in a state. -/
def tokensFrom (sub : Option SubLexer) (state : StateId) (text : List Char) (offset : Nat) :
    List Token :=
  let start := Cursor.start state text offset
  start.tokensWithin t sub (start.potential t.growth)

/-- The lexers for group texts. -/
def subLexerWithin : (levels : Nat) → Option SubLexer
  | 0 => none
  | levels + 1 => some (t.tokensFrom (subLexerWithin levels))

theorem subLexer_eq_subLexerWithin (levels : Nat) :
    t.subLexer levels = t.subLexerWithin levels := by
  induction levels with
  | zero => rfl
  | succ levels ih =>
    rw [subLexer, subLexerWithin, ih]
    congr 1
    funext state text offset
    exact Cursor.tokens_eq_tokensWithin (Nat.le_refl _)

/-- The tokens of a text, by steps. -/
def tokenizeWithin (text : List Char) : List Token :=
  t.tokensFrom (t.subLexerWithin maxSubLexDepth) t.initial text 0

/-- **What a table makes of a text can be computed.** -/
theorem tokenize_eq_tokenizeWithin (text : List Char) :
    t.tokenize text = t.tokenizeWithin text := by
  rw [tokenizeWithin, ← subLexer_eq_subLexerWithin]
  exact Cursor.tokens_eq_tokensWithin (Nat.le_refl _)

end Table

end Highlighter
