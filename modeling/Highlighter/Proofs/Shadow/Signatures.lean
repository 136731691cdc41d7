/-
# Method heads

What the rule for method heads matches is types with white space after each of them, a name, perhaps
more white space, and an opening parenthesis (`Signature`, `exists_signature`).  The types are lexed
by themselves.  There is no parenthesis among them, so no other method head is met there
(`Signature.placed_nested`), and they end in white space, so none of their tokens goes on in the
name (`Lexeme.before`).

**Every token of a text is a lexeme or the name of a method in its head** (`placed_tokenize`).
-/
import Highlighter.Proofs.Shadow.Lexemes

namespace Highlighter

namespace Shadow

open Pattern (many many1)

/-! ## 1. Signatures -/

/-- The head of a method: types with white space after each, a name, white space and a
parenthesis. -/
structure Signature where
  types : List Char
  name : List Char
  blank : List Char
  /-- No parenthesis opens among the types. -/
  unopened : '(' ∉ types
  /-- The types end in white space. -/
  separated : ∃ c, types.getLast? = some c ∧ isBlank c = true
  named : name ≠ []
  name_chars : ∀ c ∈ name, nameSet.contains c = true
  blanks : ∀ c ∈ blank, isBlank c = true

namespace Signature

variable (s : Signature)

def text : List Char := s.types ++ s.name ++ s.blank ++ ['(']

/-- The tokens of what comes after the types, from the byte offset `start` on. -/
def ownTokens (start : Nat) : List Token :=
  ⟨.nameFunction, s.name, start⟩ ::
    (Emission.piece .text s.blank (start + byteLength s.name) ++
      [⟨.punctuation, ['('], start + byteLength s.name + byteLength s.blank⟩])

theorem types_ne_nil : s.types ≠ [] := by
  obtain ⟨c, hc, -⟩ := s.separated
  exact List.ne_nil_of_mem (List.mem_of_getLast? hc)

/-- The tokens of a row of groups that took what the signature is made of. -/
theorem rowTokens_eq (sub : Option SubLexer) (gap : Kind) (start : Nat) :
    Emission.rowTokens sub gap start [(.using 0, s.types), (.token .nameFunction, s.name),
        (.token .text, s.blank), (.token .punctuation, ['('])] =
      Emission.ofGroup sub gap (.using 0) s.types start ++
        s.ownTokens (start + byteLength s.types) := by
  rw [Emission.rowTokens, if_neg s.types_ne_nil, Emission.rowTokens_token, Emission.rowTokens_token,
    Emission.rowTokens_token, Emission.rowTokens, Emission.piece_of_ne_nil s.named,
    Emission.piece_of_ne_nil (List.cons_ne_nil '(' []), ownTokens, List.append_nil,
    List.singleton_append]

end Signature

section

variable {before : Option Char} {taken after : List Char}

theorem unopened_of_takes (h : types.Takes before taken after) : '(' ∉ taken := by
  have hsets : ∀ s ∈ types.sets, s.contains '(' = false := by decide
  intro hmem
  obtain ⟨s, hs, hsc⟩ := h.forall_mem_sets _ hmem
  exact Bool.eq_false_iff.mp (hsets s hs) hsc

/-- The last part of the types ends in white space. -/
theorem separated_of_takes (h : types.Takes before taken after) :
    ∃ c, taken.getLast? = some c ∧ isBlank c = true := by
  obtain ⟨n, hn, -, hrep⟩ := h
  cases hrep with
  | none => cases hn
  | @more _ _ others _ _ _ hpart =>
    obtain ⟨start, _, rfl, -, tail, blank, rfl, -, hblank⟩ := hpart
    obtain ⟨hne, hblanks⟩ := Pattern.takes_many1.mp hblank
    have hlast := List.getLast?_eq_some_getLast hne
    refine ⟨_, ?_, hblanks _ (List.getLast_mem hne)⟩
    simp only [List.getLast?_append, hlast, Option.some_or]

theorem name_of_takes (h : name.Takes before taken after) :
    taken ≠ [] ∧ ∀ c ∈ taken, nameSet.contains c = true := by
  have hstart : ∀ s ∈ nameStart.sets, ∀ c, s.contains c = true → nameSet.contains c = true := by
    simp only [nameStart, Pattern.sets, Pattern.char, List.cons_append, List.nil_append,
      List.forall_mem_cons]
    refine ⟨fun c hc => ?_, fun c hc => ?_, List.forall_mem_nil _⟩
    · exact contains_wordsWith.mpr (Or.inl (isWord_of_letterSet hc))
    · rw [CharSet.contains_single, decide_eq_true_eq] at hc
      exact contains_wordsWith.mpr (Or.inr (hc ▸ List.mem_singleton_self _))
  obtain ⟨first, others, rfl, hfirst, hothers⟩ := h
  refine ⟨?_, List.forall_mem_append.mpr ⟨fun c hc => ?_, Pattern.takes_many.mp hothers⟩⟩
  · have hne : first ≠ [] := by
      rcases hfirst with ⟨c, -, rfl⟩ | ⟨c, -, rfl⟩ <;> exact List.cons_ne_nil c []
    exact List.append_ne_nil_of_left_ne_nil hne _
  · obtain ⟨s, hs, hsc⟩ := hfirst.forall_mem_sets c hc
    exact hstart s hs c hsc

end

/-- **What the rule for method heads matches is a signature**, and its tokens are those of the
types, lexed by themselves, and the signature's own. -/
theorem exists_signature {before : Option Char} {rest : List Char} {m : Match}
    (hm : Compiled.method.match? before rest = some m) :
    ∃ s : Signature, rest.take m.length = s.text ∧
      m.span? 1 = some (0, s.types.length) ∧ ∀ sub gap start,
      Emission.tokens sub
          (.groups [.using 0, .token .nameFunction, .token .text, .token .punctuation] gap) m
          (rest.take m.length) start =
        (Emission.ofGroup sub gap (.using 0) s.types start) ++
          s.ownTokens (start + byteLength s.types) := by
  let actions : List (GroupAction StateId) :=
    [.using 0, .token .nameFunction, .token .text, .token .punctuation]
  have hskip : .skip ∉ actions := by decide
  obtain ⟨texts, hflat, hrow, hassign, htokens⟩ :=
    Emission.exists_tokens_of_row (by decide) hskip rfl (TableRule.pattern_match? hm)
  obtain - | ⟨htypes, - | ⟨hname, - | ⟨hblank, - | ⟨hparen, ⟨-⟩⟩⟩⟩⟩ := hrow
  obtain rfl := Pattern.takes_char.mp hparen
  obtain ⟨c, hlast, hc⟩ := separated_of_takes htypes
  obtain ⟨hnamed, hchars⟩ := name_of_takes hname
  let s : Signature := ⟨_, _, _, unopened_of_takes htypes, ⟨c, hlast, hc⟩, hnamed, hchars,
    Pattern.takes_many.mp hblank⟩
  refine ⟨s, ?_, (Prod.mk.inj (List.cons.inj hassign).1).2.trans ?_,
    fun sub gap start => (htokens sub gap start).trans (s.rowTokens_eq sub gap start)⟩
  · rw [← hflat]
    simp [s, Signature.text]
  · rw [Nat.zero_add]

/-! ## 2. Types by themselves -/

/-- What an event with any other rule gives, and an error. -/
theorem placed_emitted {c : Cursor} (hr : c.rest ≠ [])
    (hmethod : ∀ m, Compiled.table.event c ≠ .rule Compiled.method m) (sub : Option SubLexer)
    (earlier : List Char) :
    Placed IsLexeme earlier (c.emitted sub (Compiled.table.event c))
      (c.after (Compiled.table.event c)).rest := by
  cases hevent : Compiled.table.event c with
  | rule r m =>
    obtain ⟨hr, hm⟩ := Table.match?_of_event hevent
    rcases Compiled.form_of_mem hr with rfl | hform
    · exact absurd hevent (hmethod m)
    · exact hform.placed hm sub earlier c.offset
  | fallback f => trivial
  | error =>
    obtain ⟨d, rest, hrest⟩ := List.exists_cons_of_ne_nil hr
    refine placed_piece fun _ => ?_
    rw [hrest]
    exact .error d _

/-- A method head needs a parenthesis. -/
theorem ne_method_of_not_mem {c : Cursor} (h : '(' ∉ c.rest) (m : Match) :
    Compiled.table.event c ≠ .rule Compiled.method m := by
  intro hevent
  obtain ⟨-, hm⟩ := Table.match?_of_event hevent
  obtain ⟨s, htext, -⟩ := exists_signature hm
  refine h (List.mem_of_mem_take (i := m.length) ?_)
  rw [htext, Signature.text]
  exact List.mem_append_right _ (List.mem_singleton_self _)

/-- **A text without parentheses gives lexemes only**, whatever lexes its groups. -/
theorem placed_of_not_mem {sub : Option SubLexer} (hsub : ∀ lex ∈ sub, lex.Lossless)
    {text : List Char} (h : '(' ∉ text) (state : StateId) (start : Nat) :
    Placed IsLexeme [] ((Stream.start state text start).tokens Compiled.table sub) [] := by
  refine Stream.placed_tokens_start hsub (I := fun c => '(' ∉ c.rest) ⟨?_, ?_⟩ h
  · intro c hc _ hmem
    obtain ⟨taken, hrest, -⟩ := c.cut_emitted hsub (Compiled.table.event c)
    exact hc (hrest ▸ List.mem_append_right _ hmem)
  · exact fun before c hc hr => placed_emitted hr (ne_method_of_not_mem hc) sub before

/-! ## 3. Every token -/

/-- What a token of a text is: a lexeme, or the name of a method in its head, where no reserved word
stands. -/
inductive Described (before : List Char) (token : Token) (after : List Char) : Prop where
  | lexeme (h : Lexeme token.kind token.text after)
  | method (s : Signature) (earlier later : List Char) (ahead : Option Char)
      (hkind : token.kind = .nameFunction) (htext : token.text = s.name)
      (hbefore : before = earlier ++ s.types) (hafter : after = s.blank ++ '(' :: later)
      (hreserved : (Compiled.words keywords .keyword).match? ahead (s.text ++ later) = none)

/-- **The tokens of the types are lexemes in the whole text too.**  The last of them ends in white
space, so it is no word that the name could go on with. -/
theorem Signature.placed_nested (s : Signature) {nested : List Token} {start : Nat}
    (hcut : Cut start s.types nested) (h : Placed IsLexeme [] nested [])
    (earlier after : List Char) : Placed Described earlier nested after := by
  refine h.mono fun first token later heq hlexeme => .lexeme (hlexeme.before fun hlast hend => ?_)
  rw [List.append_nil] at hend
  refine hend.append fun hlater => ?_
  -- The token is the last one, so it ends with the types.
  obtain ⟨c, hc, hblank⟩ := s.separated
  have hne := (heq ▸ hcut.tiled).text_ne_nil (List.mem_append_right _ List.mem_cons_self)
  have htypes : texts first ++ token.text = s.types := by
    rw [← hcut.texts_eq, heq, texts_append, texts_cons, hlater, List.append_nil]
  obtain ⟨d, hd⟩ := Option.ne_none_iff_exists'.mp (mt List.getLast?_eq_none_iff.mp hne)
  rw [← htypes, List.getLast?_append, hd] at hc
  obtain rfl : d = c := Option.some.inj hc
  cases (hlast d hd).symm.trans hblank

/-- The rule for method heads is a rule of the main state only, and comes after the one for reserved
words. -/
theorem keywords_of_method {c : Cursor} {m : Match}
    (h : Compiled.table.event c = .rule Compiled.method m) :
    (Compiled.words keywords .keyword).match? c.before c.rest = none := by
  have hfirst := Table.firstMatch?_of_event h
  have hstates : ∀ s ∈ Compiled.table.states, Compiled.method ∈ s.rules →
      s.rules = Compiled.rootRules := by
    simp only [Compiled.table, List.forall_mem_cons]
    exact ⟨fun _ => trivial, fun h => absurd h (by decide), fun h => absurd h (by decide),
      fun h => absurd h (by decide), List.forall_mem_nil _⟩
  have hrules : (Compiled.table.state c.stack.top).rules = Compiled.rootRules := by
    obtain ⟨hmem, -⟩ := firstMatch?_eq_some hfirst
    exact hstates _ (Table.state_mem_of_mem_rules hmem) hmem
  rw [hrules, ← List.take_append_drop 4 Compiled.rootRules] at hfirst
  have hbefore : Compiled.method ∉ Compiled.rootRules.take 4 := by decide
  exact match?_eq_none_of_firstMatch? hfirst hbefore _ (by simp [Compiled.rootRules])

/-- The tokens that follow the types. -/
theorem Signature.placed_ownTokens (s : Signature) {ahead : Option Char} {after : List Char}
    (hreserved : (Compiled.words keywords .keyword).match? ahead (s.text ++ after) = none)
    (earlier : List Char) (start : Nat) :
    Placed Described (earlier ++ s.types) (s.ownTokens start) after := by
  have hblank := (Emission.cut_piece .text s.blank (start + byteLength s.name)).texts_eq
  have hmark : (punctuationMarks, Kind.punctuation) ∈ marks := by decide
  have hparen : '(' ∈ punctuationMarks := by decide
  refine ⟨.method s earlier after ahead rfl rfl rfl ?_ hreserved, placed_append.mpr
    ⟨placed_piece fun _ => .lexeme (.blank s.blanks), .lexeme (.mark hmark hparen), trivial⟩⟩
  rw [texts_append, hblank, List.append_assoc]
  rfl

/-- **Every token of a text is a lexeme or the name of a method in its head.** -/
theorem placed_tokenize (text : List Char) : Placed Described [] (table.tokenize text) [] := by
  rw [table_eq]
  have hlossless := Compiled.table.lossless_subLexer
  refine Stream.placed_tokens_start (hlossless maxSubLexDepth) (I := fun _ => True)
    ⟨fun _ _ _ => trivial, fun before c _ hr => ?_⟩ trivial
  by_cases hmethod : ∃ m, Compiled.table.event c = .rule Compiled.method m
  · obtain ⟨m, hevent⟩ := hmethod
    obtain ⟨-, hm⟩ := Table.match?_of_event hevent
    obtain ⟨s, htext, -, htokens⟩ := exists_signature hm
    have hreserved := keywords_of_method hevent
    rw [← List.take_append_drop m.length c.rest, htext] at hreserved
    have hcut : Cut c.offset s.types ((Stream.start 0 s.types c.offset).tokens Compiled.table
        (Compiled.table.subLexer (maxSubLexDepth - 1))) :=
      hlossless maxSubLexDepth _ rfl 0 s.types c.offset
    have hnested := placed_of_not_mem (hlossless (maxSubLexDepth - 1)) s.unopened 0 c.offset
    have hemitted : c.emitted (Compiled.table.subLexer maxSubLexDepth)
        (.rule Compiled.method m) = (Stream.start 0 s.types c.offset).tokens Compiled.table
          (Compiled.table.subLexer (maxSubLexDepth - 1)) ++
        s.ownTokens (c.offset + byteLength s.types) := htokens _ .text c.offset
    rw [hevent, hemitted, placed_append, hcut.texts_eq]
    exact ⟨s.placed_nested hcut hnested before _, s.placed_ownTokens hreserved before _⟩
  · have hlexemes := placed_emitted hr (fun m hm => hmethod ⟨m, hm⟩)
      (Compiled.table.subLexer maxSubLexDepth) before
    exact hlexemes.mono fun _ _ _ _ h => .lexeme h

end Shadow

end Highlighter
