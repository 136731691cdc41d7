/-
# The command line

What can be said on a command line: the commands (`Command`), the flags, and which of them belong
to which command.  Some flags belong to every command and may also be given before it.
-/
import Highlighter.Files.Path
import Highlighter.Output.Format

namespace Highlighter

/-- When to write colours on a terminal. -/
inductive ColorMode where
  /-- If the output goes to a terminal. -/
  | auto
  | always
  | never
  deriving DecidableEq

/-- What to do. -/
inductive Command where
  /-- Write the tokens of a file. -/
  | tokens (file : Path) (format : Format)
  /-- Highlight files and all known files below directories. -/
  | highlight (paths : List Path) (format : Format) (color : ColorMode) (theme : Option Path)
  /-- List the languages. -/
  | languages
  /-- Check the grammars of the languages. -/
  | lint
  deriving DecidableEq

/-- The paths that a command names. -/
def Command.paths : Command → List Path
  | tokens file _ => [file]
  | highlight paths _ _ theme => paths ++ theme.toList
  | languages => []
  | lint => []

/-- What a command line says. -/
structure Arguments where
  command : Command
  /-- The language, if it is given by name. -/
  lexer : Option (List Char) := none
  /-- Assignments to options, in order. -/
  options : List (List Char) := []
  /-- How many times more log messages were asked for. -/
  verbosity : Nat := 0
  deriving DecidableEq

/-- Why a command line does not say what to do. -/
inductive UsageError where
  | unknownArgument
  | invalidSubcommand
  | invalidValue
  | missingRequiredArgument
  | missingSubcommand
  /-- Nothing was said at all, so the help is shown. -/
  | helpForNothing
  /-- A flag that may be given once was given again. -/
  | argumentConflict
  /-- A value for a flag that takes none. -/
  | tooManyValues
  /-- Help was asked for. -/
  | help
  /-- The version was asked for. -/
  | version
  deriving DecidableEq

/-- A flag. -/
inductive Flag where
  | lexer | option | verbose | help | version | format | color | theme
  deriving DecidableEq

namespace Flag

/-- The name after two dashes. -/
def long : Flag → String
  | lexer => "lexer"
  | option => "option"
  | verbose => "verbose"
  | help => "help"
  | version => "version"
  | format => "format"
  | color => "color"
  | theme => "theme"

/-- The letter after one dash. -/
def short? : Flag → Option Char
  | lexer => some 'l'
  | option => some 'O'
  | verbose => some 'v'
  | help => some 'h'
  | version => some 'V'
  | format => some 'f'
  | color => none
  | theme => none

/-- Whether a value follows. -/
def takesValue : Flag → Bool
  | lexer | option | format | color | theme => true
  | verbose | help | version => false

end Flag

/-- A part of the command line with flags of its own: what stands before the command, and what
stands after it. -/
inductive CommandScope where
  | program | tokens | highlight | languages | lint
  deriving DecidableEq

/-- How many operands a scope takes. -/
inductive OperandCount where
  | none | one | many
  deriving DecidableEq

namespace CommandScope

/-- The flags of a scope. -/
def flags : CommandScope → List Flag
  | program => [.lexer, .option, .verbose, .help, .version]
  | tokens => [.format, .lexer, .option, .verbose, .help]
  | highlight => [.format, .color, .theme, .lexer, .option, .verbose, .help]
  | languages => [.lexer, .option, .verbose, .help]
  | lint => [.lexer, .option, .verbose, .help]

/-- The operands of a scope. -/
def operands : CommandScope → OperandCount
  | tokens => .one
  | highlight => .many
  | program | languages | lint => .none

/-- The scope of the command with a name. -/
def ofCommand? (name : List Char) : Option CommandScope :=
  if name == "tokens".toList then some tokens
  else if name == "highlight".toList then some highlight
  else if name == "languages".toList then some languages
  else if name == "lint".toList then some lint
  else none

/-- The flag with a long name. -/
def long? (s : CommandScope) (name : List Char) : Option Flag :=
  s.flags.find? (·.long.toList == name)

/-- The flag with a letter. -/
def short? (s : CommandScope) (letter : Char) : Option Flag :=
  s.flags.find? (·.short? == some letter)

end CommandScope

end Highlighter
