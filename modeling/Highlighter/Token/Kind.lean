/-
# Token kinds

What a token can be (`Kind`).  The kinds form a shallow hierarchy: `Keyword.Type` is a `Keyword`,
and a theme that says nothing about the former styles it like the latter.  Each kind has a dotted
name, which can be read back (`Kind.ofName?_dotted`), and a short name for style sheets.
-/

namespace Highlighter

/-- The kinds of tokens, parents before children. -/
inductive Kind where
  | text
  | comment
  | commentSingle
  | commentMultiline
  | keyword
  | keywordDeclaration
  | keywordType
  | keywordNamespace
  | keywordConstant
  | name
  | nameFunction
  | nameClass
  | nameAttribute
  | nameNamespace
  | nameDecorator
  | string
  | stringChar
  | number
  | numberFloat
  | numberHex
  | numberBin
  | numberOct
  | numberInteger
  | operator
  | punctuation
  | error
  deriving DecidableEq

namespace Kind

/-- Every kind, in declaration order. -/
def all : List Kind := [
  text, comment, commentSingle, commentMultiline, keyword, keywordDeclaration, keywordType,
  keywordNamespace, keywordConstant, name, nameFunction, nameClass, nameAttribute, nameNamespace,
  nameDecorator, string, stringChar, number, numberFloat, numberHex, numberBin, numberOct,
  numberInteger, operator, punctuation, error]

/-! ## 1. Names -/

/-- The dotted name. -/
def dotted : Kind → String
  | text => "Text"
  | comment => "Comment"
  | commentSingle => "Comment.Single"
  | commentMultiline => "Comment.Multiline"
  | keyword => "Keyword"
  | keywordDeclaration => "Keyword.Declaration"
  | keywordType => "Keyword.Type"
  | keywordNamespace => "Keyword.Namespace"
  | keywordConstant => "Keyword.Constant"
  | name => "Name"
  | nameFunction => "Name.Function"
  | nameClass => "Name.Class"
  | nameAttribute => "Name.Attribute"
  | nameNamespace => "Name.Namespace"
  | nameDecorator => "Name.Decorator"
  | string => "String"
  | stringChar => "String.Char"
  | number => "Number"
  | numberFloat => "Number.Float"
  | numberHex => "Number.Hex"
  | numberBin => "Number.Bin"
  | numberOct => "Number.Oct"
  | numberInteger => "Number.Integer"
  | operator => "Operator"
  | punctuation => "Punctuation"
  | error => "Error"

/-- The class name in a style sheet.  Plain text has none. -/
def cssClass : Kind → String
  | text => ""
  | comment => "c"
  | commentSingle => "c1"
  | commentMultiline => "cm"
  | keyword => "k"
  | keywordDeclaration => "kd"
  | keywordType => "kt"
  | keywordNamespace => "kn"
  | keywordConstant => "kc"
  | name => "n"
  | nameFunction => "nf"
  | nameClass => "nc"
  | nameAttribute => "na"
  | nameNamespace => "nn"
  | nameDecorator => "nd"
  | string => "s"
  | stringChar => "sc"
  | number => "m"
  | numberFloat => "mf"
  | numberHex => "mh"
  | numberBin => "mb"
  | numberOct => "mo"
  | numberInteger => "mi"
  | operator => "o"
  | punctuation => "p"
  | error => "err"

/-- The kind with a dotted name. -/
def ofDotted? (name : String) : Option Kind := all.find? (·.dotted == name)

/-- A name without the word `Token.` that may stand before it. -/
def bareName (name : String) : String :=
  match name.toList with
  | 'T' :: 'o' :: 'k' :: 'e' :: 'n' :: '.' :: rest => String.ofList rest
  | _ => name

/-- The kind with a dotted name, which may begin with `Token.`. -/
def ofName? (name : String) : Option Kind := ofDotted? (bareName name)

/-! ## 2. The hierarchy -/

/-- The kind just above. -/
def parent : Kind → Option Kind
  | commentSingle | commentMultiline => some comment
  | keywordDeclaration | keywordType | keywordNamespace | keywordConstant => some keyword
  | nameFunction | nameClass | nameAttribute | nameNamespace | nameDecorator => some name
  | stringChar => some string
  | numberFloat | numberHex | numberBin | numberOct | numberInteger => some number
  | _ => none

/-- The kind and those above it, nearest first. -/
def lineage (k : Kind) : List Kind :=
  k :: match k.parent with
    | some p => [p]
    | none => []

/-- Whether a kind is `ancestor` or below it. -/
def isA (k ancestor : Kind) : Bool := k.lineage.contains ancestor

/-- Position in the list of all kinds. -/
def index (k : Kind) : Nat := all.findIdx (· == k)

/-! ## 3. The names can be read back -/

theorem mem_all (k : Kind) : k ∈ all := by cases k <;> decide

@[simp] theorem ofDotted?_dotted (k : Kind) : ofDotted? k.dotted = some k := by
  cases k <;> decide

@[simp] theorem ofName?_dotted (k : Kind) : ofName? k.dotted = some k := by
  cases k <;> decide

end Kind

end Highlighter
