/-
# What the kind of a token says

Every token of a text is a lexeme or the name of a method in its head, be it a token of the main
lexer or of one for the types before such a name (`placed_tokenize`).  What holds of these holds of
all tokens:

* **A token is in the vocabulary of its kind** (`inVocabulary_of_mem_tokenize`).
* **Words are never cut in the middle** (`wordEnd_of_mem_tokenize`): no word character follows a
  word or a name.
-/
import Highlighter.Proofs.Lexer.Evaluation
import Highlighter.Proofs.Shadow.Signatures

namespace Highlighter

namespace Shadow

/-! ## 1. Vocabularies -/

/-- Whether a token of the kind may have the text.  Nothing is asked of comments, literals and
names. -/
def inVocabulary (kind : Kind) (text : List Char) : Bool :=
  let isOneOf (words : List String) : Bool := words.any (·.toList == text)
  match kind with
  | .text => text.all isBlank
  | .keyword => isOneOf keywords
  | .keywordType => isOneOf primitives
  | .keywordConstant => isOneOf constants
  | .keywordDeclaration =>
    isOneOf modifiers || isOneOf ["class", "enum", "interface", "singleton", "var"]
  | .keywordNamespace => isOneOf ["package", "import"]
  | .operator => operators.any ([·] == text)
  | .punctuation => punctuationMarks.any ([·] == text)
  | .error => text.length == 1
  | _ => true

theorem Lexeme.inVocabulary {kind : Kind} {text after : List Char} (h : Lexeme kind text after) :
    inVocabulary kind text = true := by
  cases h with
  | blank h => exact List.all_eq_true.mpr h
  | word hkind hword =>
    have hlists : ∀ list ∈ wordLists ++ announcements, ∀ word ∈ list.1,
        Shadow.inVocabulary list.2 word.toList = true := by decide +kernel
    exact hlists _ hkind _ hword
  | mark hkind hc =>
    have hlists : ∀ list ∈ marks,
        (list.1.all fun c => Shadow.inVocabulary list.2 [c]) = true := by
      decide +kernel
    exact List.all_eq_true.mp (hlists _ hkind) _ hc
  | name hkind =>
    have hkinds : ∀ kind ∈ nameKinds, Shadow.inVocabulary kind text = true := by
      simp [nameKinds, Shadow.inVocabulary]
    exact hkinds kind hkind
  | plain hkind =>
    have hkinds : ∀ kind ∈ plainKinds, Shadow.inVocabulary kind text = true := by
      simp [plainKinds, Shadow.inVocabulary]
    exact hkinds kind hkind
  | error c => rfl

/-- **Every token is in the vocabulary of its kind**, whatever the text. -/
theorem inVocabulary_of_mem_tokenize (text : List Char) {token : Token}
    (h : token ∈ table.tokenize text) : inVocabulary token.kind token.text = true := by
  obtain ⟨before, after, -, -, hdescribed⟩ := Table.exists_of_mem_tokenize (placed_tokenize text) h
  cases hdescribed with
  | lexeme h => exact h.inVocabulary
  | method s earlier later ahead hkind =>
    rw [hkind]
    rfl

/-- The type of a method, which is lexed by itself. -/
theorem type_mem_tokenize : ⟨.keywordType, "int".toList, 0⟩ ∈ table.tokenize "int f(".toList := by
  rw [table_eq, Table.tokenize_eq_tokenizeWithin]
  decide +kernel

theorem inVocabulary_of_mem_tokenize_type :
    ⟨.keywordType, "int".toList, 0⟩ ∈ table.tokenize "int f(".toList ∧
      inVocabulary .keywordType "int".toList = true :=
  ⟨type_mem_tokenize, inVocabulary_of_mem_tokenize _ type_mem_tokenize⟩

example : inVocabulary .keywordType "integer".toList = false := by decide

/-! ## 2. Whole words -/

/-- The kinds of words and names. -/
def isWordKind (kind : Kind) : Bool :=
  kind == .keyword || kind.parent == some .keyword ||
    [.name, .nameFunction, .nameClass, .nameAttribute, .nameNamespace].contains kind

theorem Lexeme.wordEnd {kind : Kind} {text after : List Char} (h : Lexeme kind text after)
    (hword : isWordKind kind = true) : WordEnd after := by
  cases h with
  | blank => cases hword
  | word _ _ hend => exact hend
  | mark hkind =>
    have hmarks : ∀ list ∈ marks, isWordKind list.2 = false := by decide
    cases hword.symm.trans (hmarks _ hkind)
  | name _ _ hend => exact hend
  | plain hkind =>
    have hplain : ∀ kind ∈ plainKinds, isWordKind kind = false := by decide
    cases hword.symm.trans (hplain _ hkind)
  | error => cases hword

/-- What follows the name of a method is no word. -/
theorem Signature.wordEnd (s : Signature) (later : List Char) :
    WordEnd (s.blank ++ '(' :: later) := by
  by_cases hblank : s.blank = []
  · intro c hc
    rw [hblank] at hc
    exact Option.some.inj hc ▸ by decide
  · exact wordEnd_of_blank hblank s.blanks _

/-- **Words are never cut in the middle.**  Whatever the text, a keyword or a name is followed by
the end of the text or by a character that is no word character. -/
theorem wordEnd_of_mem_tokenize (text : List Char) {token : Token}
    (h : token ∈ table.tokenize text) (hword : isWordKind token.kind = true) :
    ∃ before after, text = before ++ token.text ++ after ∧ token.start = byteLength before ∧
      ∀ c ∈ after.head?, CharClass.isWord c = false := by
  obtain ⟨before, after, htext, hstart, hdescribed⟩ :=
    Table.exists_of_mem_tokenize (placed_tokenize text) h
  refine ⟨before, after, htext, hstart, ?_⟩
  cases hdescribed with
  | lexeme h => exact h.wordEnd hword
  | method s earlier later ahead hkind htoken hbefore hafter => exact hafter ▸ s.wordEnd later

theorem wordEnd_of_mem_tokenize_type :
    ⟨.keywordType, "int".toList, 0⟩ ∈ table.tokenize "int f(".toList ∧
      isWordKind .keywordType = true ∧
      ∃ before after, "int f(".toList = before ++ "int".toList ++ after ∧ 0 = byteLength before ∧
        ∀ c ∈ after.head?, CharClass.isWord c = false :=
  ⟨type_mem_tokenize, rfl, wordEnd_of_mem_tokenize _ type_mem_tokenize rfl⟩

end Shadow

end Highlighter
