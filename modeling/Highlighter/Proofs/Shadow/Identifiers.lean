/-
# Identifiers

A text of the form that names have (`IsIdentifier`) is one token, a name, **unless a reserved word
stands at its beginning that ends there** (`tokenize_eq_name_iff`): nothing comes behind the word, or
a `$` does.

* All rules before the one for names need a character that no name has (`foreign_of_leading`), but
  for the rules for words.
* A rule for words asks for a word boundary behind the word.  A word character is none, and so
  `classifier` is no `class`; but `$` is not a word character, though names are written with it, and
  so `if$` begins with a reserved word (`reserved_before_dollar`).
-/
import Highlighter.Proofs.Lexer.Evaluation
import Highlighter.Proofs.Shadow.Lexemes

namespace Highlighter

namespace Shadow

open Pattern (many many1)

/-! ## 1. The form of a name -/

/-- The text begins with `$` or a word character other than a digit, and goes on with word
characters and `$`. -/
def IsIdentifier (text : List Char) : Prop :=
  ∃ first more, text = first :: more ∧
    (first = '$' ∨ CharClass.isWord first = true ∧ CharClass.isDigit first = false) ∧
    ∀ c ∈ more, CharClass.isWord c = true ∨ c = '$'

/-- The words that are tokens of their own. -/
def reserved : List String := keywords ++ modifiers ++ primitives ++ constants

theorem mem_reserved {word : String} : word ∈ reserved ↔ ∃ list ∈ wordLists, word ∈ list.1 := by
  simp only [reserved, wordLists, List.mem_append, List.mem_cons, List.not_mem_nil, or_false,
    exists_eq_or_imp, exists_eq_left, or_assoc]

theorem contains_nameSet {c : Char} :
    nameSet.contains c = true ↔ CharClass.isWord c = true ∨ c = '$' := by
  rw [nameSet, contains_wordsWith, List.mem_singleton]

/-- The character is in no name. -/
def Foreign (c : Char) : Prop := nameSet.contains c = false

theorem foreign_of_isBlank {c : Char} (h : isBlank c = true) : Foreign c := by
  refine Bool.eq_false_iff.mpr fun hc => ?_
  rcases contains_nameSet.mp hc with hword | rfl
  · exact absurd hword (Bool.eq_false_iff.mp (isWord_of_isBlank h))
  · cases h

namespace IsIdentifier

variable {text : List Char}

theorem of_all {first : Char} {more : List Char}
    (hfirst : first = '$' ∨ CharClass.isWord first = true ∧ CharClass.isDigit first = false)
    (hmore : more.all (fun c => CharClass.isWord c || c == '$') = true) :
    IsIdentifier (first :: more) := by
  refine ⟨first, more, rfl, hfirst, fun c hc => ?_⟩
  have h := List.all_eq_true.mp hmore c hc
  rwa [Bool.or_eq_true, beq_iff_eq] at h

theorem ne_nil (h : IsIdentifier text) : text ≠ [] := by
  obtain ⟨first, more, rfl, -, -⟩ := h
  exact List.cons_ne_nil first more

theorem forall_mem (h : IsIdentifier text) : ∀ c ∈ text, nameSet.contains c = true := by
  obtain ⟨first, more, rfl, hfirst, hmore⟩ := h
  refine List.forall_mem_cons.mpr ⟨contains_nameSet.mpr ?_, fun c hc => ?_⟩
  · rcases hfirst with rfl | ⟨hword, -⟩
    · exact Or.inr rfl
    · exact Or.inl hword
  · exact contains_nameSet.mpr (hmore c hc)

/-- A word ends within an identifier where the identifier ends, and before a `$`. -/
theorem wordEnd_iff {taken later : List Char} (h : IsIdentifier (taken ++ later)) :
    WordEnd later ↔ later = [] ∨ later.head? = some '$' := by
  cases later with
  | nil => exact iff_of_true (fun _ hc => by cases hc) (Or.inl rfl)
  | cons c later =>
    have hmem : c ∈ taken ++ c :: later := List.mem_append_right _ List.mem_cons_self
    constructor
    · intro hend
      rcases contains_nameSet.mp (h.forall_mem c hmem) with hword | rfl
      · cases hword.symm.trans (hend c rfl)
      · exact Or.inr rfl
    · rintro (hnil | hhead)
      · cases hnil
      · obtain rfl := Option.some.inj hhead
        intro d hd
        obtain rfl := Option.some.inj hd
        decide

end IsIdentifier

/-! ## 2. The rules before the one for names -/

namespace Compiled

/-- The rule for names. -/
def nameRule : TableRule :=
  token "([^\\W\\d]|\\$)[\\w$]*" (.seq (.group 1 nameStart) (many nameSet)) .name

/-- The rules before it. -/
def leading : List TableRule := rootRules.take 16

/-- **Every rule before the one for names needs a character that no name has**, or it is a rule for
words. -/
theorem foreign_of_leading :
    ∀ r ∈ leading, r.pattern.Needs Foreign ∨ ∃ list ∈ wordLists, r = words list.1 list.2 := by
  have hmark : ∀ c ∈ ['/', '[', '"', '\'', '(', '.'], (Pattern.char c).Needs Foreign := by
    have hforeign : ∀ c ∈ ['/', '[', '"', '\'', '(', '.'], Foreign c := by
      simp only [List.forall_mem_cons, Foreign]
      exact ⟨by decide, by decide, by decide, by decide, by decide, by decide,
        List.forall_mem_nil _⟩
    exact fun c hc => Pattern.needs_char (hforeign c hc)
  have hslash := hmark '/' (by decide)
  have hquote := hmark '\'' (by decide)
  have hspaces : (many1 (.diff blankSet (.single '\n'))).Needs Foreign := by
    refine .repeated (by decide) (.set fun c hc => foreign_of_isBlank ?_)
    rw [CharSet.contains_diff, Bool.and_eq_true] at hc
    exact hc.1
  have hannounce : ∀ source words kind state,
      (announcement source words kind state).pattern.Needs Foreign := by
    intro source words kind state
    exact .second (.group (.repeated (by decide) (.set fun _ hc => foreign_of_isBlank hc)))
  simp only [leading, rootRules, List.take_succ_cons, List.take_zero, List.forall_mem_cons]
  refine ⟨.inl hspaces, .inl (.first hslash), .inl (.first hslash), .inr ?keywords, .inl ?method,
    .inl ?decorator, .inr ?modifiers, .inr ?primitives, .inl (hannounce _ _ _ _), .inr ?constants,
    .inl (hannounce _ _ _ _), .inl (hannounce _ _ _ _), .inl (hannounce _ _ _ _), .inl ?string,
    .inl ?char, .inl ?member, List.forall_mem_nil _⟩
  case method => exact .second (.second (.second (.group (hmark '(' (by decide)))))
  case decorator => exact .first (hmark '[' (by decide))
  case string => exact .first (hmark '"' (by decide))
  case char => exact .alt (.first hquote) (.alt (.first hquote) (.first hquote))
  case member => exact .first (.group (hmark '.' (by decide)))
  case keywords => exact ⟨(Shadow.keywords, .keyword), by decide, rfl⟩
  case modifiers => exact ⟨(Shadow.modifiers, .keywordDeclaration), by decide, rfl⟩
  case primitives => exact ⟨(Shadow.primitives, .keywordType), by decide, rfl⟩
  case constants => exact ⟨(Shadow.constants, .keywordConstant), by decide, rfl⟩

theorem words_mem_leading : ∀ list ∈ wordLists, words list.1 list.2 ∈ leading := by
  simp only [wordLists, List.forall_mem_cons]
  refine ⟨?_, ?_, ?_, ?_, List.forall_mem_nil _⟩ <;>
    simp only [leading, rootRules, List.take_succ_cons, List.mem_cons, true_or, or_true]

end Compiled

section

variable {text : List Char}

/-- Only rules for words match before the one for names. -/
theorem IsIdentifier.words_of_match? (h : IsIdentifier text) {r : TableRule}
    (hr : r ∈ Compiled.leading) {before : Option Char} {m : Match}
    (hm : r.match? before text = some m) :
    ∃ list ∈ wordLists, r = Compiled.words list.1 list.2 := by
  refine (Compiled.foreign_of_leading r hr).resolve_left fun hneeds => ?_
  have htakes := Pattern.takes_of_match? (TableRule.pattern_match? hm)
  obtain ⟨c, hc, hforeign⟩ := hneeds.exists_mem htakes
  cases (h.forall_mem c (List.mem_of_mem_take hc)).symm.trans hforeign

/-- **The rule for names takes all of an identifier.** -/
theorem IsIdentifier.match?_nameRule (h : IsIdentifier text) (before : Option Char) :
    ∃ m, Compiled.nameRule.match? before text = some m ∧ m.length = text.length := by
  have hsome : Compiled.nameRule.pattern.match? before text ≠ none := by
    obtain ⟨first, more, rfl, hfirst, -⟩ := h
    have htakes : nameStart.Takes before [first] more := by
      rcases hfirst with rfl | ⟨hword, hdigit⟩
      · exact Or.inr (Pattern.takes_char.mpr rfl)
      · refine Or.inl ⟨first, ?_, rfl⟩
        have hletter : (CharSet.property .digit).contains first = false := hdigit
        simp only [letterSet, CharSet.contains_compl, CharSet.contains_union, contains_wordSet,
          hword, hletter, Bool.not_true, Bool.or_false, Bool.not_false]
    intro hnone
    refine Pattern.match?_eq_none_iff.mp hnone [first] more rfl ?_
    exact ⟨[first], [], rfl, htakes, Pattern.takes_many.mpr (List.forall_mem_nil _)⟩
  obtain ⟨m, hm⟩ := Option.ne_none_iff_exists'.mp hsome
  have hends := ((Pattern.exhausts_many nameSet).seq (.group 1 nameStart)).match? hm
  -- What is left of an identifier would begin with a character that the repetition takes.
  have hrest : text.drop m.length = [] := by
    cases hdrop : text.drop m.length with
    | nil => rfl
    | cons c later =>
      have hmem : c ∈ text := List.mem_of_mem_drop (hdrop ▸ List.mem_cons_self)
      rw [hdrop] at hends
      cases (h.forall_mem c hmem).symm.trans (hends c rfl)
  have hlength : m.length = text.length :=
    Nat.le_antisymm (Pattern.length_le_of_match? hm) (List.drop_eq_nil_iff.mp hrest)
  have hpos : 0 < m.length := hlength ▸ List.length_pos_iff.mpr h.ne_nil
  exact ⟨m, Option.filter_eq_some_iff.mpr ⟨hm, decide_eq_true hpos⟩, hlength⟩

/-- **The first rule that matches an identifier** is one for words or the one for names. -/
theorem IsIdentifier.exists_firstMatch? (h : IsIdentifier text) (before : Option Char) :
    (∃ list ∈ wordLists, ∃ m,
      firstMatch? Compiled.rootRules before text =
        some (Compiled.words list.1 list.2, m)) ∨
      ((∀ r ∈ Compiled.leading, r.match? before text = none) ∧ ∃ m, m.length = text.length ∧
        firstMatch? Compiled.rootRules before text = some (Compiled.nameRule, m)) := by
  have hrules : Compiled.rootRules =
      Compiled.leading ++ Compiled.nameRule :: Compiled.rootRules.drop 17 := rfl
  have hsplit : firstMatch? Compiled.rootRules before text =
      (firstMatch? Compiled.leading before text).or
        (firstMatch? (Compiled.nameRule :: Compiled.rootRules.drop 17) before text) := by
    rw [hrules]
    exact List.findSome?_append
  cases hfirst : firstMatch? Compiled.leading before text with
  | some found =>
    obtain ⟨r, m⟩ := found
    obtain ⟨hr, hm⟩ := firstMatch?_eq_some hfirst
    obtain ⟨list, hlist, rfl⟩ := h.words_of_match? hr hm
    exact Or.inl ⟨list, hlist, m, by rw [hsplit, hfirst]; rfl⟩
  | none =>
    refine Or.inr ⟨fun r hr => ?_, ?_⟩
    · exact Option.map_eq_none_iff.mp (List.findSome?_eq_none_iff.mp hfirst r hr)
    · obtain ⟨m, hm, hlength⟩ := h.match?_nameRule before
      refine ⟨m, hlength, ?_⟩
      rw [hsplit, hfirst, Option.none_or, firstMatch?, List.findSome?_cons, hm]
      rfl

end

/-! ## 3. The tokens of an identifier -/

section

variable {text : List Char}

/-- The rules for words all fail just where no reserved word ends at the beginning. -/
theorem forall_words_none_iff (before : Option Char) :
    (∀ list ∈ wordLists, (Compiled.words list.1 list.2).match? before text = none) ↔
      ∀ word ∈ reserved, ∀ later, text = word.toList ++ later → ¬ WordEnd later := by
  constructor
  · intro h word hword
    obtain ⟨list, hlist, hmem⟩ := mem_reserved.mp hword
    exact (match?_words_eq_none_iff hlist).mp (h list hlist) word hmem
  · intro h list hlist
    exact (match?_words_eq_none_iff hlist).mpr fun word hword =>
      h word (mem_reserved.mpr ⟨list, hlist, hword⟩)

/-- The first step on a text gives the tokens of the rule that matches. -/
theorem tokenize_of_firstMatch? (hne : text ≠ []) {r : TableRule} {m : Match}
    (h : firstMatch? Compiled.rootRules none text = some (r, m)) {kind : Kind}
    (haction : r.action = .token kind) :
    table.tokenize text = ⟨kind, text.take m.length, 0⟩ ::
      (⟨(Cursor.start 0 text).after (.rule r m), []⟩ : Stream).tokens Compiled.table
        Compiled.table.groupLexer := by
  have hevent : Compiled.table.event (.start 0 text) = .rule r m :=
    Table.event_of_firstMatch? h
  have htaken : text.take m.length ≠ [] := by
    have hpos := TableRule.length_pos_of_match? (firstMatch?_eq_some h).2
    rw [ne_eq, List.take_eq_nil_iff, not_or]
    exact ⟨Nat.ne_of_gt hpos, hne⟩
  have hemitted : (Cursor.start 0 text).emitted Compiled.table.groupLexer
      (.rule r m) = [⟨kind, text.take m.length, 0⟩] := by
    rw [Cursor.emitted, haction]
    exact Emission.piece_of_ne_nil htaken kind 0
  have hstep : (⟨.start 0 text, []⟩ : Stream).step Compiled.table
      Compiled.table.groupLexer =
        ⟨(Cursor.start 0 text).after (.rule r m), [⟨kind, text.take m.length, 0⟩]⟩ := by
    rw [Stream.step, hevent, hemitted, List.nil_append]
  rw [table_eq]
  refine (Stream.tokens_of_step _ _ (s := ⟨.start 0 text, []⟩) rfl hne).trans ?_
  rw [hstep, Stream.tokens_of_pending]
  rfl

/-- **An identifier is one name just where no reserved word ends at its beginning.** -/
theorem tokenize_eq_name_iff_wordEnd (h : IsIdentifier text) :
    table.tokenize text = [⟨.name, text, 0⟩] ↔
      ∀ word ∈ reserved, ∀ later, text = word.toList ++ later → ¬ WordEnd later := by
  rw [← forall_words_none_iff none]
  rcases h.exists_firstMatch? none with
    ⟨list, hlist, m, hfirst⟩ | ⟨hnone, m, hlength, hfirst⟩
  · refine iff_of_false (fun htokens => ?_) fun hwords => ?_
    · -- The first token is the reserved word.
      rw [tokenize_of_firstMatch? h.ne_nil hfirst rfl] at htokens
      have hkinds : ∀ list ∈ wordLists, list.2 ≠ .name := by decide
      have hhead := congrArg Token.kind (List.cons.inj htokens).1
      exact hkinds list hlist hhead
    · cases (hwords list hlist).symm.trans (firstMatch?_eq_some hfirst).2
  · refine iff_of_true ?_ fun list hlist => ?_
    · rw [tokenize_of_firstMatch? h.ne_nil hfirst rfl, hlength, List.take_length]
      congr 1
      refine Stream.tokens_of_end _ _ ?_
      exact List.drop_eq_nil_iff.mpr (Nat.le_of_eq hlength.symm)
    · exact hnone _ (Compiled.words_mem_leading list hlist)

/-- **An identifier is one name** just where it is no reserved word and does not begin with one that
is followed by `$`. -/
theorem tokenize_eq_name_iff (h : IsIdentifier text) :
    table.tokenize text = [⟨.name, text, 0⟩] ↔
      ∀ word ∈ reserved, text ≠ word.toList ∧ ¬ (word.toList ++ ['$']) <+: text := by
  rw [tokenize_eq_name_iff_wordEnd h]
  refine forall₂_congr fun word _ => ?_
  constructor
  · intro hends
    constructor
    · rintro rfl
      exact hends [] (List.append_nil _).symm fun _ hc => by cases hc
    · rintro ⟨later, rfl⟩
      have hsplit := List.append_assoc word.toList ['$'] later
      rw [hsplit] at h
      exact hends ('$' :: later) hsplit (h.wordEnd_iff.mpr (Or.inr rfl))
  · rintro ⟨hne, hprefix⟩ later rfl hend
    rcases h.wordEnd_iff.mp hend with rfl | hhead
    · exact hne (List.append_nil _)
    · obtain ⟨more, rfl⟩ := List.head?_eq_some_iff.mp hhead
      exact hprefix ⟨more, List.append_assoc _ _ _⟩

end

theorem tokenize_eq_name_iff_classifier :
    IsIdentifier "classifier".toList ∧
      (∀ word ∈ reserved,
        "classifier".toList ≠ word.toList ∧
          ¬ (word.toList ++ ['$']) <+: "classifier".toList) ∧
      table.tokenize "classifier".toList = [⟨.name, "classifier".toList, 0⟩] := by
  have hidentifier : IsIdentifier ('c' :: "lassifier".toList) :=
    .of_all (by decide) (by decide)
  have hwords : ∀ word ∈ reserved, "classifier".toList ≠ word.toList ∧
      ¬ (word.toList ++ ['$']) <+: "classifier".toList := by decide
  exact ⟨hidentifier, hwords, (tokenize_eq_name_iff hidentifier).mpr hwords⟩

/-- **A reserved word ends before a `$`**, within an identifier that is no reserved word. -/
theorem reserved_before_dollar :
    IsIdentifier "if$".toList ∧ (∀ word ∈ reserved, "if$".toList ≠ word.toList) ∧
      table.tokenize "if$".toList = [⟨.keyword, "if".toList, 0⟩, ⟨.name, "$".toList, 2⟩] := by
  have hidentifier : IsIdentifier ('i' :: "f$".toList) := .of_all (by decide) (by decide)
  refine ⟨hidentifier, by decide, ?_⟩
  rw [table_eq, Table.tokenize_eq_tokenizeWithin]
  decide +kernel

end Shadow

end Highlighter
