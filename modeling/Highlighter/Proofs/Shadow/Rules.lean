/-
# The rules of Shadow, compiled

The table that the grammar compiles to, with its patterns as expressions.  What is proved about the
tokens of the language starts from here: **the grammar compiles to this table**
(`compile_grammar`), and `table` is this table (`table_eq`).
-/
import Highlighter.Proofs.Grammar.Words
import Highlighter.Proofs.Lexer.Rows
import Highlighter.Proofs.Regex.Preferred
import Highlighter.Proofs.Shadow.Characters
import Highlighter.Shadow.Table

namespace Highlighter

namespace Shadow

open Pattern (many many1 optional literal anyOf)

/-! ## 1. Patterns -/

/-- One of several texts, with no word character after it. -/
def wordPattern (words : List String) : Pattern :=
  .seq (anyOf words) (.look (.wordBoundary wordSet))

/-- One of several characters. -/
def oneOf (cs : String) : Pattern := .set (.unions (cs.toList.map .single))

/-- The first character of a name. -/
def nameStart : Pattern := .alt (.set letterSet) (.char '$')

def name : Pattern := .seq nameStart (many nameSet)

/-- A part of the types before the name of a method, with the white space after it. -/
def typePart : Pattern := .seq nameStart (.seq (many typeSet) (many1 blankSet))

def types : Pattern := .repeated typePart 1 none false

def signature : List Pattern := [types, name, many blankSet, .char '(']

def digits : Pattern := .seq (.set digitSet) (many digitTailSet)

def hexDigits : Pattern := .seq (.set hexSet) (many hexTailSet)

def sign : Pattern := optional (oneOf "+-")

def exponent : Pattern := .concat [oneOf "eE", sign, .set digitSet, many digitTailSet]

def floatSuffix : Pattern := optional (oneOf "fFdD")

def float : Pattern :=
  .choice [
    .concat [
      .group 1 (.alt
        (.concat [.set digitSet, many digitTailSet, .char '.', optional (.group 2 digits)])
        (.seq (.char '.') digits)),
      optional (.group 3 exponent), floatSuffix],
    .concat [.set digitSet, oneOf "eE", sign, .set digitSet, many digitTailSet, floatSuffix],
    .concat [.set digitSet, optional (.group 4 exponent), oneOf "fFdD"],
    .concat [.char '0', oneOf "xX",
      .group 5 (.alt
        (.concat [.set hexSet, many hexTailSet, optional (.char '.')])
        (.concat [optional (.group 6 hexDigits), .char '.', .set hexSet, many hexTailSet])),
      oneOf "pP", sign, .set digitSet, many digitTailSet, floatSuffix]]

/-- The digits of a whole number, with its suffixes. -/
def whole (digits : List Pattern) : Pattern :=
  .concat (digits ++ [optional (oneOf "lL"), optional (oneOf "uU")])

/-! ## 2. Rules -/

namespace Compiled

/-- A rule that makes one token of its match. -/
def token (source : String) (pattern : Pattern) (kind : Kind)
    (transition : Option (Transition StateId) := none) : TableRule :=
  ⟨source, pattern, .token kind, transition⟩

/-- A rule that makes a token of each group of its match, which is a row of groups. -/
def row (source : String) (groups : List Pattern) (actions : List (GroupAction StateId))
    (transition : Option (Transition StateId) := none) : TableRule :=
  ⟨source, .row 1 groups, .groups actions .text, transition⟩

/-- A rule for words that are not followed by further word characters. -/
def words (words : List String) (kind : Kind) : TableRule :=
  token (Words.pattern ⟨words, "\\b"⟩) (wordPattern words) kind

/-- A rule for words and the white space after them, which announce a name. -/
def announcement (source : String) (words : List String) (kind : Kind) (state : StateId) :
    TableRule :=
  row ("(" ++ source ++ ")(" ++ spacesPattern ++ ")") [anyOf words, many1 blankSet]
    [.token kind, .token .text] (some (.push [state]))

/-- The rule for the head of a method. -/
def method : TableRule :=
  row signaturePattern signature
    [.using 0, .token .nameFunction, .token .text, .token .punctuation]

/-- The rule for what follows a dot. -/
def member : TableRule :=
  row "(\\.)((?:[^\\W\\d]|\\$)[\\w$]*)" [.char '.', name]
    [.token .punctuation, .token .nameAttribute]

/-- The rules of the main state. -/
def rootRules : List TableRule := [
  token "[[\\s\\x1C-\\x1F]--\\n]+" (many1 (.diff blankSet (.single '\n'))) .text,
  token "//.*?(?:\\n|\\z)"
    (.concat [.char '/', .char '/', .repeated (.set .all) 0 none false,
      .alt (.char '\n') (.look .textEnd)]) .commentSingle,
  token "/\\*.*?\\*/"
    (.concat [.char '/', .char '*', .repeated (.set .all) 0 none false, .char '*', .char '/'])
    .commentMultiline,
  words keywords .keyword,
  method,
  token "\\[[^\\W\\d][\\w]*(,\\s*[^\\W\\d][\\w])*\\]"
    (.concat [.char '[', .set letterSet, many wordSet,
      .repeated (.group 1 (.concat [.char ',', many (.property .space), .set letterSet,
        .set wordSet])) 0 none true, .char ']']) .nameDecorator,
  words modifiers .keywordDeclaration,
  words primitives .keywordType,
  announcement "package" ["package"] .keywordNamespace 3,
  words constants .keywordConstant,
  announcement "class|enum|interface|singleton" ["class", "enum", "interface", "singleton"]
    .keywordDeclaration 1,
  announcement "var" ["var"] .keywordDeclaration 2,
  announcement "import" ["import"] .keywordNamespace 3,
  token "\"(\\\\\\\\|\\\\\"|[^\"])*\""
    (.concat [.char '"', .repeated (.group 1 (.choice [literal ['\\', '\\'], literal ['\\', '"'],
      .set (.compl (.single '"'))])) 0 none true, .char '"']) .string,
  token "'\\\\.'|'[^\\\\]'|'\\\\u[0-9a-fA-F]\x7b4\x7d'"
    (.choice [.concat [.char '\'', .char '\\', .set .all, .char '\''],
      .concat [.char '\'', .set (.compl (.single '\\')), .char '\''],
      .concat [.char '\'', .char '\\', .char 'u', .repeated (.set hexSet) 4 (some 4) true,
        .char '\'']]) .stringChar,
  member,
  token "([^\\W\\d]|\\$)[\\w$]*" (.seq (.group 1 nameStart) (many nameSet)) .name,
  token floatPattern float .numberFloat,
  token "0[xX][0-9a-fA-F][0-9a-fA-F_]*[lL]?[uU]?"
    (whole [.char '0', oneOf "xX", .set hexSet, many hexTailSet]) .numberHex,
  token "0[bB][01][01_]*[lL]?[uU]?"
    (whole [.char '0', oneOf "bB", oneOf "01",
      many (.unions [.single '0', .single '1', .single '_'])]) .numberBin,
  token "0[cC][0-7_]+[lL]?[uU]?"
    (whole [.char '0', oneOf "cC", many1 (.union (.range '0' '7') (.single '_'))]) .numberOct,
  token "0|[1-9][0-9_]*[lL]?[uU]?"
    (.alt (.char '0') (whole [.set (.range '1' '9'), many digitTailSet])) .numberInteger,
  token "[~^*!%&\\[\\]<>|+=/?#-]" (.set operatorSet) .operator,
  token "[\x7b\x7d();:.,@]" (.set punctuationSet) .punctuation,
  token "\\n" (.char '\n') .text]

/-- The rule for the name of a class. -/
def classRule : TableRule :=
  token "(([^\\W\\d][\\w:]*)@)?([^\\W\\d][\\w]*)"
    (.seq (optional (.group 1 (.seq (.group 2 (.seq (.set letterSet) (many (wordsWith [':']))))
        (.char '@'))))
      (.group 3 (.seq (.set letterSet) (many wordSet)))) .nameClass (some (.pop 1))

/-- The rule for the name of a variable. -/
def varRule : TableRule :=
  token "([^\\W\\d])[\\w]*" (.seq (.group 1 (.set letterSet)) (many wordSet)) .name (some (.pop 1))

/-- The rule for the name of a package. -/
def importRule : TableRule :=
  token "[\\w:.]*[\\w]+(@[\\w]+)?"
    (.seq (many (wordsWith [':', '.'])) (.seq (many1 wordSet)
      (optional (.group 1 (.seq (.char '@') (many1 wordSet)))))) .nameNamespace (some (.pop 1))

/-- The table. -/
def table : Table where
  name := "Shadow"
  initial := 0
  states := [⟨"root", rootRules, none⟩, ⟨"class", [classRule], none⟩, ⟨"var", [varRule], none⟩,
    ⟨"import", [importRule], none⟩]

end Compiled

/-! ## 3. The grammar compiles to the table -/

section

variable {g : Grammar} {state : String}

/-- A rule with one token compiles if its pattern does. -/
theorem compileRules_token {source : String} {kind : Kind} {words : Option Words}
    {pattern : Pattern} (hparse : Pattern.parse g.flags.patternFlags source = .ok pattern)
    (hmin : pattern.minLength ≠ some 0) (hweight : pattern.weight ≤ Pattern.maxWeight) :
    g.compileRules state 0 [⟨source, .token kind, none, words⟩] =
      .ok [Compiled.token source pattern kind] := by
  refine Grammar.compileRules_eq_ok_iff.mpr ⟨?_, .cons ⟨rfl, hparse, rfl, rfl⟩ .nil⟩
  refine List.forall_mem_singleton.mpr ⟨⟨pattern, hparse, hweight, hmin, ?_⟩, ?_, ?_⟩
  · exact fun _ _ h => by cases h
  · exact fun _ h => by cases h
  · exact fun _ h => by cases h

end

theorem parse_words (words : List String) :
    Pattern.parse grammar.flags.patternFlags (Words.pattern ⟨words, "\\b"⟩) =
      .ok (wordPattern words) :=
  Words.parse_of_grammar rfl words

theorem parse_floatPattern :
    Pattern.parse grammar.flags.patternFlags floatPattern = .ok float := by
  rw [Pattern.parse]
  unfold floatPattern
  repeat rw [String.toList_append]
  decide +kernel

/-- The rules of the main state as the grammar has them. -/
def rootSource : List Rule :=
  rootEntries.filterMap fun
    | .rule r => some r
    | .include _ => none

/-- The word lists and the floating-point numbers are the long patterns; each is read by itself. -/
theorem compileRules_root :
    grammar.compileRules "root" 0 rootSource = .ok Compiled.rootRules :=
  Grammar.compileRules_split 3 (by decide +kernel) <|
  Grammar.compileRules_split 1 (compileRules_token (parse_words _) (by decide) (by decide)) <|
  Grammar.compileRules_split 2 (by decide +kernel) <|
  Grammar.compileRules_split 1 (compileRules_token (parse_words _) (by decide) (by decide)) <|
  Grammar.compileRules_split 1 (compileRules_token (parse_words _) (by decide) (by decide)) <|
  Grammar.compileRules_split 9 (by decide +kernel) <|
  Grammar.compileRules_split 1 (compileRules_token parse_floatPattern (by decide) (by decide)) <|
  by decide +kernel

theorem compileState_root :
    grammar.compileState ⟨"root", rootEntries, none⟩ = .ok ⟨"root", Compiled.rootRules, none⟩ := by
  obtain ⟨hvalid, hto⟩ := Grammar.compileRules_eq_ok_iff.mp compileRules_root
  refine Grammar.compileState_eq_ok_iff.mpr ⟨rootSource, rfl, ⟨hvalid, hto⟩, ?_, rfl, rfl⟩
  exact fun _ h => by cases h

/-- **The grammar compiles to the table.** -/
theorem compile_grammar : grammar.compile = .ok Compiled.table :=
  Grammar.compile_eq_ok_iff.mpr ⟨by decide, ⟨_, List.mem_cons_self, rfl⟩, rfl, by decide,
    .cons compileState_root <| .cons (by decide +kernel) <| .cons (by decide +kernel) <|
      .cons (by decide +kernel) .nil⟩

theorem table_eq : table = Compiled.table := by
  rw [table, compile_grammar, Except.toOption, Option.getD_some]

end Shadow

end Highlighter
