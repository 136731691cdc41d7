/-
# Tokens between their neighbours

What is said of a token may depend on the text around it: that no word character follows it, say.
`Placed P` says of a list of tokens that each has a property `P` between the text before it and the
text after it.

**A property that every step gives its tokens holds of all tokens of a run**
(`Stream.placed_tokens`).  The tokens of a step come behind those that wait, so they change nothing
of what is before or after the others: together with the text ahead they are the text that was ahead
before the step.
-/
import Highlighter.Proofs.Lexer.Lossless

namespace Highlighter

/-! ## 1. Lists of tokens -/

/-- Each token has the property between the text before it and the text after it. -/
def Placed (P : List Char → Token → List Char → Prop) :
    (before : List Char) → List Token → (after : List Char) → Prop
  | _, [], _ => True
  | before, token :: tokens, after =>
    P before token (texts tokens ++ after) ∧ Placed P (before ++ token.text) tokens after

variable {P Q : List Char → Token → List Char → Prop}

theorem placed_append {before after : List Char} {a b : List Token} :
    Placed P before (a ++ b) after ↔
      Placed P before a (texts b ++ after) ∧ Placed P (before ++ texts a) b after := by
  induction a generalizing before with
  | nil => simp [Placed]
  | cons token a ih =>
    rw [List.cons_append, Placed, Placed, ih, texts_append, texts_cons, and_assoc,
      List.append_assoc, List.append_assoc]

theorem placed_piece {kind : Kind} {text before after : List Char} {start : Nat}
    (h : text ≠ [] → P before ⟨kind, text, start⟩ after) :
    Placed P before (Emission.piece kind text start) after := by
  unfold Emission.piece
  split
  · trivial
  · rename_i hne
    exact ⟨h (by simpa using hne), trivial⟩

namespace Placed

variable {before after : List Char} {tokens : List Token}

/-- What holds of each token at its place may be weakened there, and moved into another text. -/
theorem mono (h : Placed P before tokens after) {before' after' : List Char}
    (hPQ : ∀ earlier token later, tokens = earlier ++ token :: later →
      P (before ++ texts earlier) token (texts later ++ after) →
        Q (before' ++ texts earlier) token (texts later ++ after')) :
    Placed Q before' tokens after' := by
  induction tokens generalizing before before' with
  | nil => trivial
  | cons token tokens ih =>
    obtain ⟨htoken, h⟩ := h
    refine ⟨?_, ih h fun earlier other later heq hP => ?_⟩
    · have := hPQ [] token tokens rfl
      simpa using this (by simpa using htoken)
    · have := hPQ (token :: earlier) other later (by rw [heq, List.cons_append])
      simp only [texts_cons, ← List.append_assoc] at this
      exact this hP

theorem exists_of_mem (h : Placed P before tokens after) {token : Token} (hmem : token ∈ tokens) :
    ∃ earlier later, tokens = earlier ++ token :: later ∧
      P (before ++ texts earlier) token (texts later ++ after) := by
  obtain ⟨earlier, later, rfl⟩ := List.append_of_mem hmem
  exact ⟨earlier, later, rfl, (placed_append.mp h).2.1⟩

end Placed

/-! ## 2. Runs -/

namespace Stream

variable {t : Table} {sub : Option SubLexer} (hsub : ∀ lex ∈ sub, lex.Lossless)
variable {text : List Char} {base : Nat} {returned : List Token} {s : Stream}

include hsub

/-- The texts of the tokens that are left: of those that wait, and of those still ahead. -/
theorem texts_tokens (h : s.Accounts text base returned) :
    texts (s.tokens t sub) = texts s.pending ++ s.cursor.rest := by
  have hcut := (tokens_accounts hsub (t := t) h).texts_eq
  have htext := h.text_eq
  rw [texts_append] at hcut htext
  rw [← hcut, List.append_assoc] at htext
  exact List.append_cancel_left htext

/-- A property of cursors and, while it holds, a property of the tokens that a step gives. -/
structure Keeps (t : Table) (sub : Option SubLexer) (I : Cursor → Prop)
    (P : List Char → Token → List Char → Prop) : Prop where
  after : ∀ c, I c → c.rest ≠ [] → I (c.after (t.event c))
  emitted : ∀ before c, I c → c.rest ≠ [] →
    Placed P before (c.emitted sub (t.event c)) (c.after (t.event c)).rest

variable {I : Cursor → Prop} (hkeeps : Keeps t sub I P)

include hkeeps

/-- **A step keeps the property of the waiting tokens.** -/
theorem step_placed {before : List Char} (hI : I s.cursor) (hr : s.cursor.rest ≠ [])
    (h : Placed P before s.pending s.cursor.rest) :
    I (s.step t sub).cursor ∧
      Placed P before (s.step t sub).pending (s.step t sub).cursor.rest := by
  obtain ⟨taken, hrest, -, hcut⟩ := s.cursor.cut_emitted hsub (t.event s.cursor)
  refine ⟨hkeeps.after _ hI hr, placed_append.mpr ⟨?_, hkeeps.emitted _ _ hI hr⟩⟩
  rw [hcut.texts_eq]
  exact hrest ▸ h

theorem settle_placed {before : List Char} (hI : I s.cursor)
    (h : Placed P before s.pending s.cursor.rest) :
    I (s.settle t sub).cursor ∧
      Placed P before (s.settle t sub).pending (s.settle t sub).cursor.rest := by
  fun_induction settle t sub s with
  | case1 s hs ih =>
    obtain ⟨hI', h'⟩ := step_placed hsub hkeeps hI hs.2 h
    exact ih hI' h'
  | case2 s _ => exact ⟨hI, h⟩

/-- **All tokens that are left have the property at their places.** -/
theorem placed_tokens (ha : s.Accounts text base returned) {before : List Char}
    (hI : I s.cursor) (h : Placed P before s.pending s.cursor.rest) :
    Placed P before (s.tokens t sub) [] := by
  fun_induction run t sub s generalizing returned before with
  | case1 s hn =>
    rw [tokens_of_next?_eq_none t sub hn]
    trivial
  | case2 s token s' hn ih =>
    have ha' := next?_accounts hsub ha hn
    obtain ⟨hI', h'⟩ := settle_placed hsub hkeeps hI h
    rw [tokens_of_next?_eq_some t sub hn]
    unfold next? at hn
    dsimp only at hn
    split at hn
    · cases hn
    · rename_i first pending heq
      obtain ⟨rfl, rfl⟩ := Prod.mk.inj (Option.some.inj hn)
      rw [heq] at h'
      obtain ⟨hfirst, hothers⟩ := h'
      refine ⟨?_, ih ha' hI' hothers⟩
      rw [List.append_nil, texts_tokens hsub ha']
      exact hfirst

/-- All tokens of a text have the property at their places. -/
theorem placed_tokens_start {state : StateId} {text : List Char} {offset : Nat}
    (hI : I (.start state text offset)) :
    Placed P [] ((start state text offset).tokens t sub) [] :=
  placed_tokens hsub hkeeps (accounts_start state text offset) hI trivial

end Stream

/-- A token of a text has the property between what is before it and what is after it in the
text. -/
theorem Table.exists_of_mem_tokenize {t : Table} {text : List Char}
    (h : Placed P [] (t.tokenize text) []) {token : Token} (hmem : token ∈ t.tokenize text) :
    ∃ before after, text = before ++ token.text ++ after ∧ token.start = byteLength before ∧
      P before token after := by
  obtain ⟨earlier, later, heq, hP⟩ := h.exists_of_mem hmem
  have hcut := Stream.tokens_accounts (t.lossless_subLexer maxSubLexDepth) (t := t)
    (Stream.accounts_start t.initial text 0)
  rw [List.nil_append] at hcut
  have htokens : (Stream.start t.initial text).tokens t (t.subLexer maxSubLexDepth) =
      earlier ++ token :: later := heq
  rw [htokens] at hcut
  have htext := hcut.texts_eq
  have hstart := (tiled_append.mp hcut.tiled).2.1
  rw [texts_append, texts_cons, ← List.append_assoc] at htext
  rw [List.nil_append, List.append_nil] at hP
  exact ⟨texts earlier, texts later, htext.symm, by rw [hstart, Nat.zero_add], hP⟩

end Highlighter
