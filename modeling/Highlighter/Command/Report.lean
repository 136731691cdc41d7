/-
# The report of a run

What the program leaves behind: its exit status, its output, and what it has to say about a failure.
The status is 0 if all went well, 1 if a command failed, and 2 if the command line does not say what
to do.
-/
import Highlighter.Command.Arguments
import Highlighter.Command.Run

namespace Highlighter

/-- What a run of the program leaves behind. -/
structure Report where
  status : Nat
  output : List Char
  /-- What is said about a failure. -/
  complaint : Option String
  deriving DecidableEq

namespace UsageError

/-- What is wrong with the command line, in words. -/
def text : UsageError → String
  | unknownArgument => "unexpected argument"
  | invalidSubcommand => "unrecognized subcommand"
  | invalidValue => "a value is missing or not possible"
  | missingRequiredArgument => "a required argument was not given"
  | missingSubcommand => "a subcommand is required"
  | helpForNothing => ""
  | argumentConflict => "an argument cannot be used multiple times"
  | tooManyValues => "unexpected value for an argument"
  | help => ""
  | version => ""

end UsageError

namespace Report

/-- The name of the program with its version. -/
def versionLine : String := "shadowlex 0.1.0\n"

/-- How the program is used. -/
def helpText : String :=
  "Tokenize and highlight Shadow source code.\n\n" ++
  "Usage: shadowlex [OPTIONS] <COMMAND>\n\n" ++
  "Commands:\n" ++
  "  tokens     Print the token stream of a file, or of stdin when the file is `-`\n" ++
  "  highlight  Highlight files; directories are searched for registered file names\n" ++
  "  languages  List the registered languages\n" ++
  "  lint       Check the built-in grammars for unreachable rules and states\n" ++
  "  help       Print this message or the help of the given subcommand(s)\n\n" ++
  "Options:\n" ++
  "  -l, --lexer <LEXER>       Lexer to use, by name or alias\n" ++
  "  -O, --option <KEY=VALUE>  Lexer option as key=value. Repeatable\n" ++
  "  -v, --verbose...          Increase log verbosity\n" ++
  "  -h, --help                Print help\n" ++
  "  -V, --version             Print version\n"

/-- The report about a command line that names no command to carry out. -/
def ofUsage : UsageError → Report
  | .help => ⟨0, helpText.toList, none⟩
  | .version => ⟨0, versionLine.toList, none⟩
  | .helpForNothing => ⟨2, [], some helpText⟩
  | error => ⟨2, [], some s!"error: {error.text}\n"⟩

/-- What is said about an error. -/
def complaintAbout (error : CommandError) : String :=
  let help :=
    match error.help? with
    | some help => s!"  help: {help}\n"
    | none => ""
  s!"Error: {error.code}\n  {error.message}\n" ++ help

/-- The report about a command that was carried out. -/
def ofOutcome (o : Outcome) : Report :=
  match o.error with
  | none => ⟨0, o.output, none⟩
  | some error => ⟨1, o.output, some (complaintAbout error)⟩

/-- The report of a run. -/
def ofRun (registry : Registry) (w : Surroundings) (words : List (List Char)) : Report :=
  match Arguments.read words with
  | .error error => ofUsage error
  | .ok args => ofOutcome (Command.run registry w args)

end Report

end Highlighter
