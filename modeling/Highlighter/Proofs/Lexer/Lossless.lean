/-
# Lexing loses nothing

The tokens that a stream has returned, followed by those that wait in it, are the consumed part of
the text cut into pieces: none of them is empty, the first begins at the first byte, each other one
where the one before it ends, and the last ends at the cursor (`Stream.Accounts`).

* A match is cut into tokens without loss **whatever its groups took** (`cut_groupTokens`), if the
  lexer for group texts loses nothing; and that one does not, by induction on the levels that are
  left to it (`lossless_subLexer`).
* Every step keeps the account, be it a rule, a fallback or an error (`step_accounts`), and so do
  the steps of one call (`next?_accounts`) and any number of calls (`pull_accounts`).
-/
import Highlighter.Lexer.Stream

namespace Highlighter

/-! ## 1. Tokens that lie one after the other -/

/-- Tokens of which none is empty, the first at a byte offset and each other one where the one
before it ends. -/
def Tiled : (start : Nat) → List Token → Prop
  | _, [] => True
  | start, token :: tokens =>
    token.start = start ∧ token.text ≠ [] ∧ Tiled token.stop tokens

@[simp] theorem tiled_nil (start : Nat) : Tiled start [] := trivial

theorem tiled_append {start : Nat} {a b : List Token} :
    Tiled start (a ++ b) ↔ Tiled start a ∧ Tiled (start + byteLength (texts a)) b := by
  induction a generalizing start with
  | nil => simp
  | cons token a ih =>
    simp only [List.cons_append, Tiled, ih, texts_cons, byteLength_append]
    constructor
    · rintro ⟨rfl, hne, ha, hb⟩
      refine ⟨⟨rfl, hne, ha⟩, ?_⟩
      rwa [← Nat.add_assoc]
    · rintro ⟨⟨rfl, hne, ha⟩, hb⟩
      refine ⟨rfl, hne, ha, ?_⟩
      rwa [Token.stop, Nat.add_assoc]

theorem Tiled.text_ne_nil {start : Nat} {tokens : List Token} (h : Tiled start tokens)
    {token : Token} (hm : token ∈ tokens) : token.text ≠ [] := by
  induction tokens generalizing start with
  | nil => cases hm
  | cons first tokens ih =>
    obtain ⟨-, hne, ht⟩ := h
    rcases List.mem_cons.mp hm with rfl | hm
    · exact hne
    · exact ih ht hm

/-- Tiled tokens without text are no tokens. -/
theorem Tiled.eq_nil_of_texts {start : Nat} {tokens : List Token} (h : Tiled start tokens)
    (ht : texts tokens = []) : tokens = [] := by
  cases tokens with
  | nil => rfl
  | cons token tokens =>
    rw [texts_cons, List.append_eq_nil_iff] at ht
    exact absurd ht.1 h.2.1

/-- There are no more tiled tokens than they have characters. -/
theorem Tiled.length_le {start : Nat} {tokens : List Token} (h : Tiled start tokens) :
    tokens.length ≤ (texts tokens).length := by
  induction tokens generalizing start with
  | nil => simp
  | cons token tokens ih =>
    obtain ⟨-, hne, ht⟩ := h
    have h1 := ih ht
    have h2 := List.length_pos_iff.mpr hne
    simp only [List.length_cons, texts_cons, List.length_append]
    omega

/-- Tiled tokens lie between where the first one begins and where the last one ends. -/
theorem Tiled.bounds {start : Nat} {tokens : List Token} (h : Tiled start tokens) {token : Token}
    (hm : token ∈ tokens) :
    start ≤ token.start ∧ token.stop ≤ start + byteLength (texts tokens) := by
  induction tokens generalizing start with
  | nil => cases hm
  | cons first tokens ih =>
    obtain ⟨rfl, -, ht⟩ := h
    rw [texts_cons, byteLength_append]
    rcases List.mem_cons.mp hm with rfl | hm
    · exact ⟨Nat.le_refl _, by rw [Token.stop]; omega⟩
    · have hfirst : first.stop = first.start + byteLength first.text := rfl
      obtain ⟨hstart, hstop⟩ := ih ht hm
      exact ⟨by omega, by omega⟩

/-- A text at a byte offset, cut into tokens. -/
structure Cut (start : Nat) (text : List Char) (tokens : List Token) : Prop where
  texts_eq : texts tokens = text
  tiled : Tiled start tokens

theorem Cut.nil (start : Nat) : Cut start [] [] := ⟨rfl, trivial⟩

theorem Cut.append {start : Nat} {a b : List Char} {ta tb : List Token} (ha : Cut start a ta)
    (hb : Cut (start + byteLength a) b tb) : Cut start (a ++ b) (ta ++ tb) := by
  refine ⟨by rw [texts_append, ha.texts_eq, hb.texts_eq], tiled_append.mpr ⟨ha.tiled, ?_⟩⟩
  rw [ha.texts_eq]
  exact hb.tiled

/-! ## 2. The tokens of a match -/

/-- A lexer that cuts every text into tokens. -/
def SubLexer.Lossless (lex : SubLexer) : Prop :=
  ∀ state text start, Cut start text (lex state text start)

namespace Emission

theorem cut_piece (kind : Kind) (text : List Char) (start : Nat) :
    Cut start text (piece kind text start) := by
  unfold piece
  cases text with
  | nil => exact Cut.nil start
  | cons c text => exact ⟨by simp, rfl, by simp, trivial⟩

/-- Unless it is skipped, a group is handled if it took something and begins where the match has
been dealt with, or later. -/
theorem handled?_eq_filter (done : Nat) {action : GroupAction StateId} (h : action ≠ .skip)
    (span : Option (Nat × Nat)) :
    handled? done (action, span) =
      span.filter fun span => decide (done ≤ span.1 ∧ span.1 < span.2) := by
  cases span with
  | none => cases action <;> rfl
  | some span =>
    cases action with
    | skip => exact absurd rfl h
    | token kind => simp only [handled?, Option.filter_some, decide_eq_true_eq]
    | «using» state => simp only [handled?, Option.filter_some, decide_eq_true_eq]

theorem handled?_eq_some_iff {done first last : Nat} {action : GroupAction StateId}
    {span : Option (Nat × Nat)} :
    handled? done (action, span) = some (first, last) ↔
      action ≠ .skip ∧ span = some (first, last) ∧ done ≤ first ∧ first < last := by
  by_cases hskip : action = .skip
  · subst hskip
    simp [handled?]
  · rw [handled?_eq_filter done hskip, Option.filter_eq_some_iff, decide_eq_true_eq]
    exact (and_iff_right hskip).symm

variable {sub : Option SubLexer} (hsub : ∀ lex ∈ sub, lex.Lossless)

include hsub

theorem cut_ofGroup (gap : Kind) (action : GroupAction StateId) (text : List Char)
    (start : Nat) : Cut start text (ofGroup sub gap action text start) := by
  unfold ofGroup
  split
  · exact cut_piece _ _ _
  · exact hsub _ rfl _ _ _
  · exact cut_piece _ _ _
  · exact cut_piece _ _ _

/-- **Whatever the groups took, the rest of a match is cut into tokens.**  The induction goes along
the groups; the text before a handled group, the group's own and the text after it make up what was
left. -/
theorem cut_groupTokens (gap : Kind) (groups : List (GroupAction StateId × Option (Nat × Nat)))
    (done start : Nat) (left : List Char) :
    Cut start left (groupTokens sub gap done start left groups) := by
  induction groups generalizing done start left with
  | nil => exact cut_piece _ _ _
  | cons group groups ih =>
    unfold groupTokens
    split
    · exact ih done start left
    · rename_i first last h
      obtain ⟨-, -, hfirst, hlast⟩ := handled?_eq_some_iff.mp h
      have hsplit : left = left.take (first - done) ++
          (left.drop (first - done)).take (last - first) ++ left.drop (last - done) := by
        have hd : last - done = (first - done) + (last - first) := by omega
        rw [hd, ← List.drop_drop, List.append_assoc, List.take_append_drop,
          List.take_append_drop]
      have hgroup := (cut_piece gap (left.take (first - done)) start).append
        (cut_ofGroup hsub gap group.1 ((left.drop (first - done)).take (last - first)) _)
      have hrest := ih last (start + byteLength (left.take (first - done)) +
        byteLength ((left.drop (first - done)).take (last - first))) (left.drop (last - done))
      rw [Nat.add_assoc, ← byteLength_append] at hrest
      have h := hgroup.append hrest
      rw [← hsplit] at h
      simpa only [byteLength_append, Nat.add_assoc] using h

theorem cut_tokens (action : Action StateId) (m : Match) (matched : List Char) (start : Nat) :
    Cut start matched (tokens sub action m matched start) := by
  unfold tokens
  split
  · exact cut_piece _ _ _
  · exact cut_groupTokens hsub _ _ _ _ _

end Emission

/-! ## 3. Steps -/

/-- **An event gives tokens for just the text that it consumes.** -/
theorem Cursor.cut_emitted {sub : Option SubLexer} (hsub : ∀ lex ∈ sub, lex.Lossless)
    (c : Cursor) (e : Event) :
    ∃ taken, c.rest = taken ++ (c.after e).rest ∧
      (c.after e).offset = c.offset + byteLength taken ∧
      Cut c.offset taken (c.emitted sub e) := by
  cases e with
  | rule r m =>
    exact ⟨c.rest.take m.length, (List.take_append_drop _ _).symm, rfl,
      Emission.cut_tokens hsub _ _ _ _⟩
  | fallback f => exact ⟨[], rfl, rfl, Cut.nil _⟩
  | error =>
    exact ⟨c.rest.take 1, (List.take_append_drop _ _).symm, rfl, Emission.cut_piece _ _ _⟩

namespace Stream

/-- The account of a text at the byte offset `base` of which the tokens `returned` have been
returned. -/
structure Accounts (text : List Char) (base : Nat) (returned : List Token) (s : Stream) :
    Prop where
  /-- The tokens make up what is before the cursor. -/
  text_eq : text = texts (returned ++ s.pending) ++ s.cursor.rest
  offset_eq : s.cursor.offset = base + byteLength (texts (returned ++ s.pending))
  tiled : Tiled base (returned ++ s.pending)

theorem accounts_start (state : StateId) (text : List Char) (base : Nat) :
    (start state text base).Accounts text base [] :=
  ⟨rfl, rfl, trivial⟩

section

variable {t : Table} {sub : Option SubLexer} (hsub : ∀ lex ∈ sub, lex.Lossless)
variable {text : List Char} {base : Nat} {returned : List Token} {s : Stream}

include hsub

/-- **A step keeps the account.** -/
theorem step_accounts (h : s.Accounts text base returned) :
    (s.step t sub).Accounts text base returned := by
  obtain ⟨taken, hrest, hoffset, hcut⟩ := s.cursor.cut_emitted hsub (t.event s.cursor)
  have happ : returned ++ (s.step t sub).pending =
      (returned ++ s.pending) ++ s.cursor.emitted sub (t.event s.cursor) :=
    (List.append_assoc _ _ _).symm
  have htexts : texts (returned ++ (s.step t sub).pending) =
      texts (returned ++ s.pending) ++ taken := by
    rw [happ, texts_append, hcut.texts_eq]
  refine ⟨?_, ?_, ?_⟩
  · rw [htexts, List.append_assoc, h.text_eq, hrest]
    rfl
  · rw [htexts, byteLength_append, ← Nat.add_assoc, ← h.offset_eq]
    exact hoffset
  · rw [happ]
    refine tiled_append.mpr ⟨h.tiled, ?_⟩
    rw [← h.offset_eq]
    exact hcut.tiled

theorem settle_accounts (h : s.Accounts text base returned) :
    (s.settle t sub).Accounts text base returned := by
  fun_induction settle t sub s with
  | case1 s _ ih => exact ih (step_accounts hsub h)
  | case2 s _ => exact h

omit hsub in
/-- A waiting token that is returned stays accounted for. -/
theorem Accounts.give {token : Token} {pending : List Token} (h : s.Accounts text base returned)
    (hp : s.pending = token :: pending) :
    ({ s with pending } : Stream).Accounts text base (returned ++ [token]) := by
  have happ : (returned ++ [token]) ++ pending = returned ++ s.pending := by
    rw [hp, List.append_assoc, List.singleton_append]
  refine ⟨?_, ?_, ?_⟩ <;> rw [happ]
  · exact h.text_eq
  · exact h.offset_eq
  · exact h.tiled

/-- A call that returns a token moves it from the waiting tokens to the returned ones. -/
theorem next?_accounts {token : Token} {s' : Stream} (h : s.Accounts text base returned)
    (hn : s.next? t sub = some (token, s')) :
    s'.Accounts text base (returned ++ [token]) := by
  have hs := settle_accounts (t := t) hsub h
  unfold next? at hn
  dsimp only at hn
  split at hn
  · cases hn
  · rename_i tok pending heq
    obtain ⟨rfl, rfl⟩ := Prod.mk.inj (Option.some.inj hn)
    exact hs.give heq

omit hsub in
/-- Settling ends with a waiting token, unless the text is at its end. -/
theorem rest_settle_eq_nil (h : (s.settle t sub).pending = []) :
    (s.settle t sub).cursor.rest = [] := by
  fun_induction settle t sub s with
  | case1 s _ ih => exact ih h
  | case2 s hs => exact Classical.not_not.mp fun hr => hs ⟨h, hr⟩

/-- A call returns nothing just if the text is at its end and no token waits. -/
theorem next?_eq_none_iff (h : s.Accounts text base returned) :
    s.next? t sub = none ↔ s.pending = [] ∧ s.cursor.rest = [] := by
  constructor
  · intro hn
    have hs := settle_accounts (t := t) hsub h
    have hp : (s.settle t sub).pending = [] := by
      unfold next? at hn
      dsimp only at hn
      split at hn
      · assumption
      · cases hn
    -- The settled stream has nothing ahead, so its tokens are the whole text, and all of them have
    -- been returned before.
    have hall : text = texts returned := by
      simpa [hp, rest_settle_eq_nil hp] using hs.text_eq
    have hnone : texts s.pending ++ s.cursor.rest = [] := by
      have := h.text_eq
      rw [texts_append, List.append_assoc, hall] at this
      simpa using this
    obtain ⟨hpt, hr⟩ := List.append_eq_nil_iff.mp hnone
    exact ⟨(tiled_append.mp h.tiled).2.eq_nil_of_texts hpt, hr⟩
  · rintro ⟨hp, hr⟩
    unfold next?
    rw [settle_of_end t sub hr]
    simp [hp]

/-- The tokens that are left cut the text that is left. -/
theorem tokens_accounts (h : s.Accounts text base returned) :
    Cut base text (returned ++ s.tokens t sub) := by
  fun_induction run t sub s generalizing returned with
  | case1 s hn =>
    obtain ⟨hp, hr⟩ := (next?_eq_none_iff hsub h).mp hn
    have htext := h.text_eq
    have htiled := h.tiled
    rw [hp, List.append_nil] at htext htiled
    rw [hr, List.append_nil] at htext
    rw [tokens_of_next?_eq_none t sub hn, List.append_nil]
    exact ⟨htext.symm, htiled⟩
  | case2 s token s' hn ih =>
    have := ih (next?_accounts hsub h hn)
    rwa [List.append_assoc, List.singleton_append, ← tokens_of_next?_eq_some t sub hn] at this

end

/-! ## 4. Calls -/

section

variable (t : Table) (sub : Option SubLexer)

/-- So many calls: the tokens that they return, and the stream after them.  A call that returns
nothing leaves the stream as it is, and so do all calls after it. -/
def pull : (calls : Nat) → Stream → List Token × Stream
  | 0, s => ([], s)
  | calls + 1, s =>
    match s.next? t sub with
    | none => ([], s)
    | some (token, s') => (token :: (pull calls s').1, (pull calls s').2)

variable {sub} (hsub : ∀ lex ∈ sub, lex.Lossless)

include hsub

theorem pull_accounts {text : List Char} {base : Nat} {returned : List Token} {s : Stream}
    (h : s.Accounts text base returned) (calls : Nat) :
    (s.pull t sub calls).2.Accounts text base (returned ++ (s.pull t sub calls).1) := by
  induction calls generalizing s returned with
  | zero => simpa [pull] using h
  | succ calls ih =>
    unfold pull
    split
    · simpa using h
    · rename_i token s' hn
      have := ih (next?_accounts hsub h hn)
      rwa [List.append_assoc] at this

end

end Stream

namespace Table

/-- **Group texts are lexed without loss**, however many levels are left. -/
theorem lossless_subLexer (t : Table) (levels : Nat) :
    ∀ lex ∈ t.subLexer levels, lex.Lossless := by
  induction levels with
  | zero => intro lex h; cases h
  | succ levels ih =>
    intro lex h
    obtain rfl := Option.some.inj h
    intro state text start
    exact Stream.tokens_accounts ih (Stream.accounts_start state text start)

/-- The texts of all tokens are the text. -/
theorem texts_tokenizeFrom (t : Table) (state : StateId) (text : List Char) :
    texts (t.tokenizeFrom state text) = text := by
  have hcut := Stream.tokens_accounts (t.lossless_subLexer maxSubLexDepth) (t := t)
    (Stream.accounts_start state text 0)
  exact hcut.texts_eq

/-- **Lexing is lossless after any number of calls.**  The tokens returned and those that wait are
the text before the cursor, cut into pieces, and the stream is at its end just if the texts
returned are the whole text. -/
theorem lossless_pull (t : Table) (state : StateId) (text : List Char) (calls : Nat) :
    let (returned, s) := (Stream.start state text).pull t t.groupLexer calls
    text = texts (returned ++ s.pending) ++ s.cursor.rest ∧
      s.cursor.offset = byteLength (texts (returned ++ s.pending)) ∧
      Tiled 0 (returned ++ s.pending) ∧
      (s.next? t t.groupLexer = none ↔ texts returned = text) := by
  have hsub : ∀ lex ∈ t.groupLexer, lex.Lossless := t.lossless_subLexer maxSubLexDepth
  have h := Stream.pull_accounts t hsub (Stream.accounts_start state text 0) calls
  refine ⟨h.text_eq, by simpa using h.offset_eq, h.tiled, ?_⟩
  refine (Stream.next?_eq_none_iff hsub h).trans ⟨?_, ?_⟩
  · rintro ⟨hp, hr⟩
    simpa [hp, hr] using h.text_eq.symm
  · intro hall
    have htext := h.text_eq
    rw [texts_append, List.nil_append, hall, List.append_assoc] at htext
    obtain ⟨hpt, hr⟩ := List.append_eq_nil_iff.mp (List.self_eq_append_right.mp htext)
    exact ⟨(tiled_append.mp h.tiled).2.eq_nil_of_texts hpt, hr⟩

end Table

end Highlighter
