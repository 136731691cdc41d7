/-
# The Shadow language

The lexer grammar of the programming language Shadow.  The state `root` does nearly all the work;
`class`, `var` and `import` are entered after a word that announces a name, lex that name, and
leave.

The order of the rules of `root` matters.  Reserved words come before method signatures, so that in
`throw new X()` no method `X` is declared, and numbers with a fraction come before whole numbers, so
that `3.14` is one token.
-/
import Highlighter.Grammar.Words

namespace Highlighter

namespace Shadow

/-! ## 1. Words -/

/-- Reserved words. -/
def keywords : List String := [
  "and", "assert", "break", "case", "cast", "catch", "check", "continue", "copy", "create",
  "default", "destroy", "do", "else", "exception", "finally", "for", "foreach", "freeze", "if",
  "in", "is", "or", "recover", "return", "send", "skip", "spawn", "super", "switch", "this",
  "throw", "try", "while", "xor"]

/-- Modifiers of declarations.  `import` has a rule of its own. -/
def modifiers : List String := [
  "abstract", "constant", "extern", "get", "immutable", "locked", "native", "nullable",
  "private", "protected", "public", "readonly", "set"]

/-- Names of primitive types.  `var` has a rule of its own. -/
def primitives : List String := [
  "boolean", "byte", "code", "double", "float", "int", "long", "short", "ubyte", "uint", "ulong",
  "ushort"]

/-- Named constants. -/
def constants : List String := [
  "false", "null", "true"]

/-! ## 2. Patterns -/

/-- Numbers with a fraction, an exponent or a floating-point suffix. -/
def floatPattern : String :=
  "([0-9][0-9_]*\\.([0-9][0-9_]*)?|" ++
  "\\.[0-9][0-9_]*)" ++
  "([eE][+\\-]?[0-9][0-9_]*)?[fFdD]?|" ++
  "[0-9][eE][+\\-]?[0-9][0-9_]*[fFdD]?|" ++
  "[0-9]([eE][+\\-]?[0-9][0-9_]*)?[fFdD]|" ++
  "0[xX]([0-9a-fA-F][0-9a-fA-F_]*\\.?|" ++
  "([0-9a-fA-F][0-9a-fA-F_]*)?\\.[0-9a-fA-F][0-9a-fA-F_]*)" ++
  "[pP][+\\-]?[0-9][0-9_]*[fFdD]?"

/-- A method's head: types and modifiers with space after each, its name, and the parenthesis that
opens its parameters. -/
def signaturePattern : String :=
  "((?:(?:[^\\W\\d]|\\$)[\\w.\\[\\]$<>]*[\\s\\x1C-\\x1F]+)+?)" ++
  "((?:[^\\W\\d]|\\$)[\\w$]*)" ++
  "([\\s\\x1C-\\x1F]*)(\\()"

/-- White space, counting the ASCII separators as such. -/
def spacesPattern : String := "[\\s\\x1C-\\x1F]+"

/-! ## 3. The grammar -/

/-- A rule that makes one token of its match. -/
def tokenRule (pattern : String) (kind : Kind) (transition : Option (Transition String) := none) :
    Entry :=
  .rule ⟨pattern, .token kind, transition, none⟩

/-- A rule that makes a token of each group of its match. -/
def groupRule (pattern : String) (actions : List (GroupAction String))
    (transition : Option (Transition String) := none) : Entry :=
  .rule ⟨pattern, .groups actions .text, transition, none⟩

/-- A rule for words that are not followed by further word characters. -/
def wordRule (words : List String) (kind : Kind) : Entry := .rule (Words.rule ⟨words, "\\b"⟩ kind)

/-- A rule for words and the white space after them, which announce a name. -/
def announceRule (words : String) (kind : Kind) (state : String) : Entry :=
  groupRule ("(" ++ words ++ ")(" ++ spacesPattern ++ ")") [.token kind, .token .text]
    (some (.push [state]))

/-- The rules of the main state. -/
def rootEntries : List Entry := [
  tokenRule "[[\\s\\x1C-\\x1F]--\\n]+" .text,
  tokenRule "//.*?(?:\\n|\\z)" .commentSingle,
  tokenRule "/\\*.*?\\*/" .commentMultiline,
  wordRule keywords .keyword,
  groupRule signaturePattern
    [.using "root", .token .nameFunction, .token .text, .token .punctuation],
  tokenRule "\\[[^\\W\\d][\\w]*(,\\s*[^\\W\\d][\\w])*\\]" .nameDecorator,
  wordRule modifiers .keywordDeclaration,
  wordRule primitives .keywordType,
  announceRule "package" .keywordNamespace "import",
  wordRule constants .keywordConstant,
  announceRule "class|enum|interface|singleton" .keywordDeclaration "class",
  announceRule "var" .keywordDeclaration "var",
  announceRule "import" .keywordNamespace "import",
  tokenRule "\"(\\\\\\\\|\\\\\"|[^\"])*\"" .string,
  tokenRule "'\\\\.'|'[^\\\\]'|'\\\\u[0-9a-fA-F]\x7b4\x7d'" .stringChar,
  groupRule "(\\.)((?:[^\\W\\d]|\\$)[\\w$]*)" [.token .punctuation, .token .nameAttribute],
  tokenRule "([^\\W\\d]|\\$)[\\w$]*" .name,
  tokenRule floatPattern .numberFloat,
  tokenRule "0[xX][0-9a-fA-F][0-9a-fA-F_]*[lL]?[uU]?" .numberHex,
  tokenRule "0[bB][01][01_]*[lL]?[uU]?" .numberBin,
  tokenRule "0[cC][0-7_]+[lL]?[uU]?" .numberOct,
  tokenRule "0|[1-9][0-9_]*[lL]?[uU]?" .numberInteger,
  tokenRule "[~^*!%&\\[\\]<>|+=/?#-]" .operator,
  tokenRule "[\x7b\x7d();:.,@]" .punctuation,
  tokenRule "\\n" .text]

/-- The grammar. -/
def grammar : Grammar where
  name := "Shadow"
  flags := { multiLine := true, dotMatchesNewLine := true }
  states := [
    { name := "root", entries := rootEntries },
    { name := "class"
      entries := [tokenRule "(([^\\W\\d][\\w:]*)@)?([^\\W\\d][\\w]*)" .nameClass (some (.pop 1))] },
    { name := "var", entries := [tokenRule "([^\\W\\d])[\\w]*" .name (some (.pop 1))] },
    { name := "import"
      entries := [tokenRule "[\\w:.]*[\\w]+(@[\\w]+)?" .nameNamespace (some (.pop 1))] }]

end Shadow

end Highlighter
