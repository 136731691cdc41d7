/-
# Errors of a command

Why a command fails (`CommandError`), and how each cause is reported: a message, a code and advice.
-/
import Highlighter.Files.Tree
import Highlighter.Grammar.Error
import Highlighter.Json.Error

namespace Highlighter

/-- Why a command fails. -/
inductive CommandError where
  | unreadable (path : Path) (reason : ReadFailure)
  | unknownLexer (name : List Char)
  | invalidOption (assignment : List Char)
  | invalidTheme (path : Path) (reason : JsonError)
  | invalidGrammar (reason : GrammarError)
  /-- So many findings about the grammars. -/
  | findings (count : Nat)
  deriving DecidableEq

namespace CommandError

/-- A text between backquotes. -/
def quoted (text : List Char) : String := "`" ++ String.ofList text ++ "`"

/-- The message. -/
def message : CommandError → String
  | unreadable path _ => "could not read " ++ quoted path
  | unknownLexer name => "no lexer registered for " ++ quoted name
  | invalidOption assignment => "invalid lexer option " ++ quoted assignment
  | invalidTheme path _ => "invalid theme file " ++ quoted path
  | invalidGrammar reason => reason.message
  | findings count => s!"{count} grammar lint finding(s)"

/-- The code under which an error is documented. -/
def code : CommandError → String
  | unreadable .. => "shadow::cli::io"
  | unknownLexer .. => "shadow::cli::unknown_lexer"
  | invalidOption .. => "shadow::cli::option"
  | invalidTheme .. => "shadow::cli::theme"
  | invalidGrammar reason => reason.code
  | findings .. => "shadow::cli::lint"

/-- Advice. -/
def help? : CommandError → Option String
  | unknownLexer .. => some "run `shadowlex languages` to list the registered lexers"
  | invalidOption .. => some "options are given as key=value, e.g. `-O ensure_nl=true`"
  | invalidGrammar reason => reason.help?
  | _ => none

end CommandError

end Highlighter
