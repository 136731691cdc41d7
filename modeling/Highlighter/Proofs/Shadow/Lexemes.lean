/-
# Lexemes

What the tokens of Shadow are, by their kinds (`Lexeme`): white space, words of a list, single
marks, names, and texts of which nothing is said.  A lexeme may also say something about the text
after it: words and names end where no word character follows.

**Every rule but the one for method heads gives lexemes** (`Compiled.Form.placed`).  The rules have
a few forms (`form_of_mem`), so the cases are those of `Compiled.Form`.
-/
import Highlighter.Proofs.Lexer.Placed
import Highlighter.Proofs.Shadow.Rules

namespace Highlighter

namespace Shadow

open Pattern (many many1 anyOf)

/-! ## 1. What tokens are -/

/-- The lists of words that stand by themselves, with their kinds. -/
def wordLists : List (List String × Kind) := [
  (keywords, .keyword), (modifiers, .keywordDeclaration), (primitives, .keywordType),
  (constants, .keywordConstant)]

/-- The words that announce a name, with their kinds. -/
def announcements : List (List String × Kind) := [
  (["package"], .keywordNamespace), (["import"], .keywordNamespace),
  (["class", "enum", "interface", "singleton"], .keywordDeclaration),
  (["var"], .keywordDeclaration)]

/-- The characters that are tokens by themselves, with their kinds. -/
def marks : List (List Char × Kind) := [(operators, .operator), (punctuationMarks, .punctuation)]

/-- The kinds of names, those of methods apart. -/
def nameKinds : List Kind := [.name, .nameClass, .nameAttribute, .nameNamespace]

/-- The kinds of tokens of which nothing is said. -/
def plainKinds : List Kind := [
  .commentSingle, .commentMultiline, .nameDecorator, .string, .stringChar, .numberFloat,
  .numberHex, .numberBin, .numberOct, .numberInteger]

/-- No word character comes next. -/
def WordEnd (after : List Char) : Prop := ∀ c ∈ after.head?, CharClass.isWord c = false

/-- What a token of a kind is, with the text after it. -/
inductive Lexeme : Kind → (text after : List Char) → Prop where
  | blank {text after : List Char} (h : ∀ c ∈ text, isBlank c = true) : Lexeme .text text after
  | word {words : List String} {kind : Kind} {word : String} {after : List Char}
      (hkind : (words, kind) ∈ wordLists ++ announcements) (hword : word ∈ words)
      (hend : WordEnd after) : Lexeme kind word.toList after
  | mark {cs : List Char} {kind : Kind} {c : Char} {after : List Char}
      (hkind : (cs, kind) ∈ marks) (hc : c ∈ cs) : Lexeme kind [c] after
  | name {kind : Kind} {text after : List Char} (hkind : kind ∈ nameKinds)
      (htext : ∀ c ∈ text, isBlank c = false) (hend : WordEnd after) : Lexeme kind text after
  | plain {kind : Kind} {text after : List Char} (hkind : kind ∈ plainKinds) :
      Lexeme kind text after
  | error (c : Char) (after : List Char) : Lexeme .error [c] after

/-- Every word of a list ends with a word character. -/
theorem isWord_getLast {words : List String} {kind : Kind}
    (hkind : (words, kind) ∈ wordLists ++ announcements) {word : String} (hword : word ∈ words) :
    ∃ c, word.toList.getLast? = some c ∧ CharClass.isWord c = true := by
  have hlists : ∀ list ∈ wordLists ++ announcements, ∀ word ∈ list.1,
      word.toList.getLast?.any CharClass.isWord = true := by decide +kernel
  exact (Option.any_eq_true _ _).mp (hlists _ hkind _ hword)

theorem WordEnd.append {a b : List Char} (h : WordEnd a) (hb : a = [] → WordEnd b) :
    WordEnd (a ++ b) := by
  cases a with
  | nil => exact hb rfl
  | cons c a => exact h

/-- White space comes next. -/
theorem wordEnd_of_blank {a : List Char} (hne : a ≠ []) (h : ∀ c ∈ a, isBlank c = true)
    (b : List Char) : WordEnd (a ++ b) := by
  obtain ⟨c, a, rfl⟩ := List.exists_cons_of_ne_nil hne
  intro d hd
  obtain rfl := Option.some.inj hd
  exact isWord_of_isBlank (h _ List.mem_cons_self)

/-- **A lexeme stays one before another text**, if the other text does not go on with a word that
ends with the lexeme. -/
theorem Lexeme.before {kind : Kind} {text after after' : List Char} (h : Lexeme kind text after)
    (hend : (∀ c ∈ text.getLast?, isBlank c = false) → WordEnd after → WordEnd after') :
    Lexeme kind text after' := by
  cases h with
  | blank h => exact .blank h
  | word hkind hword h =>
    obtain ⟨c, hc, hcw⟩ := isWord_getLast hkind hword
    refine .word hkind hword (hend (fun d hd => ?_) h)
    rw [hc] at hd
    exact Option.some.inj hd ▸ isBlank_of_isWord hcw
  | mark hkind hc => exact .mark hkind hc
  | name hkind htext h =>
    exact .name hkind htext (hend (fun c hc => htext c (List.mem_of_getLast? hc)) h)
  | plain hkind => exact .plain hkind
  | error c => exact .error c after'

/-! ## 2. The forms of rules -/

/-- What the rules are like that give lexemes. -/
inductive Compiled.Form : TableRule → Prop where
  | blank {source : String} {pattern : Pattern}
      (h : ∀ s ∈ pattern.sets, ∀ c, s.contains c = true → isBlank c = true) :
      Form (token source pattern .text)
  | words {words : List String} {kind : Kind} (hkind : (words, kind) ∈ wordLists) :
      Form (Compiled.words words kind)
  | announcement {source : String} {words : List String} {kind : Kind} {state : StateId}
      (hkind : (words, kind) ∈ announcements) : Form (announcement source words kind state)
  | mark {source : String} {cs : List Char} {kind : Kind} (hkind : (cs, kind) ∈ marks) :
      Form (token source (.set (.unions (cs.map .single))) kind)
  | name {source : String} {pattern : Pattern} {kind : Kind}
      {transition : Option (Transition StateId)} (hkind : kind ∈ nameKinds)
      (hsets : ∀ s ∈ pattern.sets, Printed s) (hends : pattern.Exhausts wordSet) :
      Form (token source pattern kind transition)
  | member : Form member
  | plain {source : String} {pattern : Pattern} {kind : Kind} (hkind : kind ∈ plainKinds) :
      Form (token source pattern kind)

/-- Only method heads have a part that is lexed by itself. -/
theorem Compiled.Form.targets_eq_nil {r : TableRule} (h : Form r) : r.action.targets = [] := by
  cases h <;> rfl

/-- What ends in as many characters of names as there are. -/
theorem exhausts_nameTail (a : Pattern) : (Pattern.seq a (many nameSet)).Exhausts wordSet :=
  ((Pattern.exhausts_many nameSet).seq a).mono fun _ hc => contains_wordsWith.mpr (Or.inl hc)

/-- What ends in as many word characters as there are. -/
theorem exhausts_wordTail (a : Pattern) : (Pattern.seq a (many wordSet)).Exhausts wordSet :=
  (Pattern.exhausts_many wordSet).seq a

theorem printed_name : ∀ s ∈ name.sets, Printed s := by
  simp only [name, nameStart, many, Pattern.sets, Pattern.char, List.cons_append, List.nil_append,
    List.forall_mem_cons]
  exact ⟨printed_letterSet, printed_single (by decide), printed_wordsWith (by decide),
    List.forall_mem_nil _⟩

namespace Compiled

theorem form_name {source : String} :
    Form (token source (.seq (.group 1 nameStart) (many nameSet)) .name) :=
  .name (by decide) printed_name (exhausts_nameTail _)

/-- **The rules of the main state.**  All but the one for method heads have a form. -/
theorem form_of_mem_rootRules : ∀ r ∈ rootRules, r = method ∨ Form r := by
  have hblank : ∀ c, (CharSet.diff blankSet (.single '\n')).contains c = true →
      isBlank c = true := fun c hc => by
    rw [CharSet.contains_diff, Bool.and_eq_true] at hc
    exact hc.1
  have hfeed : ∀ c, (CharSet.single '\n').contains c = true → isBlank c = true := fun c hc => by
    rw [CharSet.contains_single, decide_eq_true_eq] at hc
    exact hc ▸ by decide
  simp only [rootRules, List.forall_mem_cons]
  refine ⟨.inr (.blank (List.forall_mem_singleton.mpr hblank)), .inr (.plain (by decide)),
    .inr (.plain (by decide)), .inr (.words (by decide)), .inl trivial, .inr (.plain (by decide)),
    .inr (.words (by decide)), .inr (.words (by decide)), .inr (.announcement (by decide)),
    .inr (.words (by decide)), .inr (.announcement (by decide)),
    .inr (.announcement (by decide)), .inr (.announcement (by decide)), .inr (.plain (by decide)),
    .inr (.plain (by decide)), .inr .member, .inr form_name, .inr (.plain (by decide)),
    .inr (.plain (by decide)), .inr (.plain (by decide)), .inr (.plain (by decide)),
    .inr (.plain (by decide)), .inr (.mark (by decide)), .inr (.mark (by decide)),
    .inr (.blank (List.forall_mem_singleton.mpr hfeed)), List.forall_mem_nil _⟩

theorem form_classRule : Form classRule := by
  refine .name (by decide) ?_ (((exhausts_wordTail _).group 3).seq _)
  simp only [Pattern.sets, Pattern.optional, many, Pattern.char, List.cons_append, List.nil_append,
    List.forall_mem_cons]
  exact ⟨printed_letterSet, printed_wordsWith (by decide), printed_single (by decide),
    printed_letterSet, printed_wordSet, List.forall_mem_nil _⟩

theorem form_varRule : Form varRule := by
  refine .name (by decide) ?_ (exhausts_wordTail _)
  simp only [Pattern.sets, many, List.cons_append, List.nil_append, List.forall_mem_cons]
  exact ⟨printed_letterSet, printed_wordSet, List.forall_mem_nil _⟩

theorem form_importRule : Form importRule := by
  have hmany := Pattern.exhausts_many1 wordSet
  refine .name (by decide) ?_ (((hmany.optional ((hmany.seq _).group 1))).seq _)
  simp only [Pattern.sets, Pattern.optional, many, many1, Pattern.char, List.cons_append,
    List.nil_append, List.forall_mem_cons]
  exact ⟨printed_wordsWith (by decide), printed_wordSet, printed_single (by decide),
    printed_wordSet, List.forall_mem_nil _⟩

/-- **Every rule of every state** but the one for method heads has a form. -/
theorem form_of_mem {id : StateId} {r : TableRule} (h : r ∈ (table.state id).rules) :
    r = method ∨ Form r := by
  have hstates : ∀ s ∈ table.states, ∀ r ∈ s.rules, r = method ∨ Form r := by
    simp only [table, List.forall_mem_cons]
    exact ⟨form_of_mem_rootRules, ⟨.inr form_classRule, List.forall_mem_nil _⟩,
      ⟨.inr form_varRule, List.forall_mem_nil _⟩, ⟨.inr form_importRule, List.forall_mem_nil _⟩,
      List.forall_mem_nil _⟩
  exact hstates _ (Table.state_mem_of_mem_rules h) r h

theorem groupFree_announcement {words : List String} {kind : Kind}
    (hkind : (words, kind) ∈ announcements) :
    ∀ a ∈ [anyOf words, many1 blankSet], a.groupFree = true := by
  have hlists : ∀ list ∈ announcements, (anyOf list.1).groupFree = true := by decide
  exact List.forall_mem_cons.mpr ⟨hlists _ hkind, by decide⟩

/-- The groups of a rule with group actions abut, and each has its action. -/
theorem exists_row_of_groups {r : TableRule} (h : r = method ∨ Form r)
    {actions : List (GroupAction StateId)} {gap : Kind} (ha : r.action = .groups actions gap) :
    ∃ groups, r.pattern = .row 1 groups ∧ (∀ a ∈ groups, a.groupFree = true) ∧
      .skip ∉ actions ∧ actions.length = groups.length := by
  rcases h with rfl | h
  · cases ha
    exact ⟨signature, rfl, by decide, by decide, rfl⟩
  · cases h with
    | @announcement _ words _ _ hkind =>
      cases ha
      exact ⟨[anyOf words, many1 blankSet], rfl, groupFree_announcement hkind, by simp, rfl⟩
    | member =>
      cases ha
      exact ⟨[.char '.', name], rfl, by decide, by decide, rfl⟩
    | _ => cases ha

end Compiled

/-! ## 3. What the rules give -/

theorem ne_nil_of_words {words : List String} {kind : Kind}
    (hkind : (words, kind) ∈ wordLists ++ announcements) : words ≠ [] := by
  have hlists : ∀ list ∈ wordLists ++ announcements, list.1 ≠ [] := by decide
  exact hlists _ hkind

section

variable {before : Option Char} {taken after : List Char}

/-- After a word character there is a boundary just where no word character comes next. -/
theorem between_wordBoundary {c : Char} (hc : CharClass.isWord c = true) :
    (Assertion.wordBoundary wordSet).between (some c) after.head? = true ↔ WordEnd after := by
  unfold WordEnd
  cases after.head? <;> simp [Assertion.between, Assertion.inSet, hc]

/-- **A word of a list is taken just where it ends.** -/
theorem takes_wordPattern {words : List String} {kind : Kind}
    (hkind : (words, kind) ∈ wordLists ++ announcements) :
    (wordPattern words).Takes before taken after ↔
      ∃ word ∈ words, taken = word.toList ∧ WordEnd after := by
  have hlook : ∀ word ∈ words, (Assertion.wordBoundary wordSet).between
      (lastChar? before word.toList) after.head? = true ↔ WordEnd after := by
    intro word hword
    obtain ⟨c, hc, hcw⟩ := isWord_getLast hkind hword
    have hlast : lastChar? before word.toList = some c := by
      rw [lastChar?, hc]
      rfl
    rw [hlast]
    exact between_wordBoundary hcw
  have hne := ne_nil_of_words hkind
  constructor
  · rintro ⟨u, v, rfl, hword, rfl, h⟩
    obtain ⟨word, hmem, rfl⟩ := (Pattern.takes_anyOf hne).mp hword
    exact ⟨word, hmem, List.append_nil _, (hlook word hmem).mp h⟩
  · rintro ⟨word, hmem, rfl, h⟩
    exact ⟨word.toList, [], (List.append_nil _).symm,
      (Pattern.takes_anyOf hne).mpr ⟨word, hmem, rfl⟩, rfl, (hlook word hmem).mpr h⟩

/-- **A rule for words does not match just where every word of its list goes on.** -/
theorem match?_words_eq_none_iff {words : List String} {kind : Kind}
    (hkind : (words, kind) ∈ wordLists) {text : List Char} :
    (Compiled.words words kind).match? before text = none ↔
      ∀ word ∈ words, ∀ later, text = word.toList ++ later → ¬ WordEnd later := by
  have hlists : ∀ list ∈ wordLists, (wordPattern list.1).mayBeEmpty = false := by decide
  have hmem := List.mem_append_left announcements hkind
  rw [TableRule.match?_eq_none_iff (hlists _ hkind)]
  constructor
  · rintro hnone word hword later rfl hend
    exact hnone _ _ rfl ((takes_wordPattern hmem).mpr ⟨word, hword, rfl, hend⟩)
  · rintro hends taken after rfl htakes
    obtain ⟨word, hword, rfl, hend⟩ := (takes_wordPattern hmem).mp htakes
    exact hends word hword after rfl hend

theorem forall_printed_of_takes {a : Pattern} (hsets : ∀ s ∈ a.sets, Printed s)
    (h : a.Takes before taken after) : ∀ c ∈ taken, isBlank c = false := by
  intro c hc
  obtain ⟨s, hs, hsc⟩ := h.forall_mem_sets c hc
  exact hsets s hs c hsc

end

/-- The token is a lexeme. -/
def IsLexeme (_ : List Char) (token : Token) (after : List Char) : Prop :=
  Lexeme token.kind token.text after

namespace Compiled

/-- Tokens of two groups. -/
theorem placed_pair {P : List Char → Token → List Char → Prop} {earlier : List Char}
    {kind kind' gap : Kind} {text text' after : List Char} {start : Nat} {sub : Option SubLexer}
    (h : ∀ start, P earlier ⟨kind, text, start⟩ (text' ++ after))
    (h' : ∀ start, P (earlier ++ text) ⟨kind', text', start⟩ after) :
    Placed P earlier (Emission.rowTokens sub gap start
      [(.token kind, text), (.token kind', text')]) after := by
  have htexts := (Emission.cut_piece kind text start).texts_eq
  have htexts' := (Emission.cut_piece kind' text' (start + byteLength text)).texts_eq
  rw [Emission.rowTokens_token, Emission.rowTokens_token, Emission.rowTokens, List.append_nil,
    placed_append, htexts, htexts']
  exact ⟨placed_piece fun _ => h _, placed_piece fun _ => h' _⟩

/-- **A rule that has a form gives lexemes.** -/
theorem Form.placed {r : TableRule} (h : Form r) {before : Option Char} {rest : List Char}
    {m : Match} (hm : r.match? before rest = some m) (sub : Option SubLexer)
    (earlier : List Char) (start : Nat) :
    Placed IsLexeme earlier (Emission.tokens sub r.action m (rest.take m.length) start)
      (rest.drop m.length) := by
  have hp := TableRule.pattern_match? hm
  have htakes := Pattern.takes_of_match? hp
  cases h with
  | blank h =>
    refine placed_piece fun _ => .blank fun c hc => ?_
    obtain ⟨s, hs, hsc⟩ := htakes.forall_mem_sets c hc
    exact h s hs c hsc
  | words hkind =>
    have hkind := List.mem_append_left announcements hkind
    obtain ⟨word, hword, htaken, hend⟩ := (takes_wordPattern hkind).mp htakes
    exact placed_piece fun _ => htaken ▸ .word hkind hword hend
  | @announcement _ words kind _ hkind =>
    have hskip : .skip ∉ ([.token kind, .token .text] : List (GroupAction StateId)) := by simp
    obtain ⟨texts, -, hrow, -, htokens⟩ :=
      Emission.exists_tokens_of_row (groupFree_announcement hkind) hskip rfl hp
    have hkind := List.mem_append_right wordLists hkind
    obtain - | ⟨hword, - | ⟨hblank, ⟨-⟩⟩⟩ := hrow
    obtain ⟨word, hmem, rfl⟩ := (Pattern.takes_anyOf (ne_nil_of_words hkind)).mp hword
    obtain ⟨hne, hspaces⟩ := Pattern.takes_many1.mp hblank
    exact htokens sub .text start ▸ placed_pair
      (fun _ => .word hkind hmem (wordEnd_of_blank hne hspaces _))
      (fun _ => .blank hspaces)
  | mark hkind =>
    obtain ⟨c, hc, htaken⟩ := htakes
    exact placed_piece fun _ => htaken ▸ .mark hkind ((CharSet.contains_unions_single _ c).mp hc)
  | name hkind hsets hends =>
    have hend := hends.match? hp
    exact placed_piece fun _ => .name hkind (forall_printed_of_takes hsets htakes) hend
  | member =>
    have hend := (((exhausts_nameTail nameStart).group 2).seq (.group 1 (.char '.'))).match? hp
    have hskip : .skip ∉ ([.token .punctuation, .token .nameAttribute] :
        List (GroupAction StateId)) := by decide
    obtain ⟨texts, -, hrow, -, htokens⟩ :=
      Emission.exists_tokens_of_row (by decide) hskip rfl hp
    obtain - | ⟨hdot, - | ⟨hname, ⟨-⟩⟩⟩ := hrow
    obtain rfl := Pattern.takes_char.mp hdot
    have hmark : (punctuationMarks, Kind.punctuation) ∈ marks := by decide
    have hkind : Kind.nameAttribute ∈ nameKinds := by decide
    exact htokens sub .text start ▸ placed_pair (fun _ => .mark hmark (by decide))
      (fun _ => .name hkind (forall_printed_of_takes printed_name hname) hend)
  | plain hkind => exact placed_piece fun _ => .plain hkind

end Compiled

end Shadow

end Highlighter
