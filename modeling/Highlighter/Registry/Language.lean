/-
# Languages

What is known about a language: what it is called, which files hold it, how it is lexed, and how
likely a text is written in it.
-/
import Highlighter.Lexer.Table
import Highlighter.Registry.Confidence

namespace Highlighter

/-- How a language is called and recognised. -/
structure LanguageInfo where
  name : String
  aliases : List String
  /-- Globs for the names of its files. -/
  filenames : List String
  mimeTypes : List String
  deriving DecidableEq

/-- A language. -/
structure Language where
  info : LanguageInfo
  /-- The grammar as it is declared. -/
  grammar : Grammar
  /-- The compiled grammar. -/
  table : Table
  /-- How likely a text is written in the language. -/
  confidence : List Char → Confidence

end Highlighter
