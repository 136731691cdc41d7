/-
# Reserved words and method heads

The rule for reserved words comes before the one for method heads, so a reserved word is never
taken for the beginning of a head: **no method head begins with a reserved word**
(`head_of_mem_tokenize`).

The rules are only tried where the lexer stands, which is where a head begins.  The order of the
rules says nothing of the words further on, and the name of a method may well be a reserved word
(`reserved_mem_tokenize`).
-/
import Highlighter.Proofs.Lexer.Evaluation
import Highlighter.Proofs.Shadow.Signatures

namespace Highlighter

namespace Shadow

/-- **A reserved word that is not matched goes on.**  Where the rule for reserved words does not
match, a text that begins like a reserved word does not end there. -/
theorem not_wordEnd_of_keywords {ahead : Option Char} {word : String} {later : List Char}
    (h : (Compiled.words keywords .keyword).match? ahead (word.toList ++ later) = none)
    (hword : word ∈ keywords) : ¬ WordEnd later :=
  (match?_words_eq_none_iff (by decide)).mp h word hword later rfl

/-- Lexemes are no names of methods. -/
theorem Lexeme.kind_ne_nameFunction {kind : Kind} {text after : List Char}
    (h : Lexeme kind text after) : kind ≠ .nameFunction := by
  cases h with
  | blank => decide
  | word hkind =>
    have hlists : ∀ list ∈ wordLists ++ announcements, list.2 ≠ .nameFunction := by decide
    exact hlists _ hkind
  | mark hkind =>
    have hlists : ∀ list ∈ marks, list.2 ≠ .nameFunction := by decide
    exact hlists _ hkind
  | name hkind =>
    have hkinds : ∀ kind ∈ nameKinds, kind ≠ .nameFunction := by decide
    exact hkinds _ hkind
  | plain hkind =>
    have hkinds : ∀ kind ∈ plainKinds, kind ≠ .nameFunction := by decide
    exact hkinds _ hkind
  | error => decide

/-- Where the rule for reserved words does not match, the types of a head do not begin with one. -/
theorem Signature.isWord_of_keywords (s : Signature) {ahead : Option Char} {later : List Char}
    (h : (Compiled.words keywords .keyword).match? ahead (s.text ++ later) = none) {word : String}
    (hword : word ∈ keywords) {more : List Char} (htypes : s.types = word.toList ++ more) :
    ∃ c ∈ more.head?, CharClass.isWord c = true := by
  by_contra hnone
  have hend : WordEnd more := fun c hc => Bool.eq_false_iff.mpr fun hcw => hnone ⟨c, hc, hcw⟩
  have hsplit : s.text ++ later =
      word.toList ++ (more ++ (s.name ++ s.blank ++ ['('] ++ later)) := by
    simp [Signature.text, htypes]
  rw [hsplit] at h
  refine not_wordEnd_of_keywords h hword (hend.append fun hmore => ?_)
  -- The types end in white space and a reserved word does not, so there is more.
  have hkind : (keywords, Kind.keyword) ∈ wordLists ++ announcements := by decide
  obtain ⟨c, hc, hblank⟩ := s.separated
  obtain ⟨d, hd, hdw⟩ := isWord_getLast hkind hword
  rw [htypes, hmore, List.append_nil, hd] at hc
  obtain rfl := Option.some.inj hc
  cases hblank.symm.trans (isBlank_of_isWord hdw)

/-- **No method head begins with a reserved word.**  Whatever the text, the name of a method stands
in a head, and if the types of the head begin like a reserved word then that is not the whole
word. -/
theorem head_of_mem_tokenize (text : List Char) {token : Token} (h : token ∈ table.tokenize text)
    (hkind : token.kind = .nameFunction) :
    ∃ (earlier : List Char) (s : Signature) (later : List Char),
      text = earlier ++ s.text ++ later ∧ token.text = s.name ∧
      token.start = byteLength (earlier ++ s.types) ∧
      ∀ word ∈ keywords, ∀ more, s.types = word.toList ++ more →
        ∃ c ∈ more.head?, CharClass.isWord c = true := by
  obtain ⟨before, after, htext, hstart, hdescribed⟩ :=
    Table.exists_of_mem_tokenize (placed_tokenize text) h
  cases hdescribed with
  | lexeme h => exact absurd hkind h.kind_ne_nameFunction
  | method s earlier later ahead _ hname hbefore hafter hreserved =>
    refine ⟨earlier, s, later, ?_, hname, hbefore ▸ hstart,
      fun word hword more htypes => s.isWord_of_keywords hreserved hword htypes⟩
    rw [htext, hname, hbefore, hafter, Signature.text]
    simp only [List.append_assoc, List.singleton_append]

theorem head_of_mem_tokenize_int :
    ⟨.nameFunction, "f".toList, 4⟩ ∈ table.tokenize "int f(".toList ∧
      ∃ (earlier : List Char) (s : Signature) (later : List Char),
        "int f(".toList = earlier ++ s.text ++ later ∧ "f".toList = s.name ∧
        4 = byteLength (earlier ++ s.types) ∧
        ∀ word ∈ keywords, ∀ more, s.types = word.toList ++ more →
          ∃ c ∈ more.head?, CharClass.isWord c = true := by
  have hmem : ⟨.nameFunction, "f".toList, 4⟩ ∈ table.tokenize "int f(".toList := by
    rw [table_eq, Table.tokenize_eq_tokenizeWithin]
    decide +kernel
  exact ⟨hmem, head_of_mem_tokenize _ hmem rfl⟩

/-- **The name of a method may be a reserved word**, after a word that is none. -/
theorem reserved_mem_tokenize :
    "and" ∈ keywords ∧ ⟨.nameFunction, "and".toList, 2⟩ ∈ table.tokenize "a and (b)".toList := by
  refine ⟨by decide, ?_⟩
  rw [table_eq, Table.tokenize_eq_tokenizeWithin]
  decide +kernel

end Shadow

end Highlighter
