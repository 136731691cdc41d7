/-
# Reading a command line

The words of a command line are read from left to right (`Arguments.read`).  A flag's value and the
operands are only looked at when something else begins (`Given.accept`), so a word that makes no
sense at all is reported before a value that is wrong.

Flags that belong to every command count from the place nearest to their use: what stands after the
command replaces what stands before it.
-/
import Highlighter.Command.Usage

namespace Highlighter

/-! ## 1. Values -/

/-- The format with a name. -/
def Format.ofName? (name : List Char) : Option Format :=
  if name == "raw".toList then some raw
  else if name == "json".toList then some json
  else if name == "html".toList then some html
  else if name == "terminal".toList then some terminal
  else none

/-- The colour mode with a name. -/
def ColorMode.ofName? (name : List Char) : Option ColorMode :=
  if name == "auto".toList then some auto
  else if name == "always".toList then some always
  else if name == "never".toList then some never
  else none

/-- What has been given in a scope so far. -/
structure Given where
  lexer : Option (List Char) := none
  options : List (List Char) := []
  verbosity : Nat := 0
  format : Option Format := none
  color : Option ColorMode := none
  theme : Option Path := none
  operands : List Path := []
  deriving DecidableEq

/-- What has been read but not looked at. -/
inductive Pending where
  | nothing
  /-- A flag whose value has not come yet. -/
  | flag (flag : Flag)
  | value (flag : Flag) (text : List Char)
  | operands (texts : List (List Char))
  deriving DecidableEq

namespace Given

/-- A value for something that may be given once. -/
def once {α : Type} (current value : Option α) : Except UsageError (Option α) :=
  match current, value with
  | some _, _ => .error .argumentConflict
  | none, none => .error .invalidValue
  | none, some a => .ok (some a)

/-- A path, which is not empty. -/
def path? (text : List Char) : Option Path := if text.isEmpty then none else some text

/-- Give a flag a value. -/
def setFlag (g : Given) (flag : Flag) (text : List Char) : Except UsageError Given :=
  match flag with
  | .lexer => return { g with lexer := ← once g.lexer (some text) }
  | .option => return { g with options := g.options ++ [text] }
  | .format => return { g with format := ← once g.format (Format.ofName? text) }
  | .color => return { g with color := ← once g.color (ColorMode.ofName? text) }
  | .theme => return { g with theme := ← once g.theme (path? text) }
  | .verbose | .help | .version => return g

/-- A flag without a value. -/
def raise (g : Given) : Flag → Except UsageError Given
  | .help => .error .help
  | .version => .error .version
  | .verbose => .ok { g with verbosity := g.verbosity + 1 }
  | _ => .ok g

/-- Look at what has been read. -/
def accept (g : Given) : Pending → Except UsageError Given
  | .nothing => .ok g
  | .flag _ => .error .invalidValue
  | .value flag text => g.setFlag flag text
  | .operands texts =>
    if texts.any (·.isEmpty) then .error .invalidValue
    else .ok { g with operands := g.operands ++ texts }

end Given

/-! ## 2. Words -/

/-- Where the reading of a scope is. -/
structure ScopeState where
  given : Given := {}
  pending : Pending := .nothing
  /-- How many operands there were. -/
  operandCount : Nat := 0
  /-- Whether flags are over. -/
  onlyOperands : Bool := false
  deriving DecidableEq

/-- What one word of the command line looks like. -/
inductive WordForm where
  /-- Two dashes. -/
  | endOfFlags
  /-- Two dashes and a name, perhaps with a value after an equals sign. -/
  | long (name : List Char) (value : Option (List Char))
  /-- One dash and letters. -/
  | short (letters : List Char)
  | plain
  deriving DecidableEq

/-- What a word looks like. -/
def WordForm.of : List Char → WordForm
  | ['-', '-'] => endOfFlags
  | '-' :: '-' :: name =>
    match Text.splitOnce? '=' name with
    | some (name, value) => long name (some value)
    | none => long name none
  | '-' :: c :: letters => short (c :: letters)
  | _ => plain

namespace ScopeState

/-- Look at what has been read. -/
def settle (s : ScopeState) : Except UsageError ScopeState :=
  return { s with given := ← s.given.accept s.pending, pending := .nothing }

/-- A flag that takes a value, which is either attached to it or still to come. -/
def openFlag (s : ScopeState) (flag : Flag) : Option (List Char) → Except UsageError ScopeState
  | none => return { ← s.settle with pending := .flag flag }
  | some value => do
    let s ← s.settle
    return { s with given := ← s.given.setFlag flag value }

/-- A flag that takes no value. -/
def raise (s : ScopeState) (flag : Flag) : Except UsageError ScopeState := do
  let s ← s.settle
  return { s with given := ← s.given.raise flag }

/-- A flag by its name. -/
def long (scope : CommandScope) (s : ScopeState) (name : List Char) (value : Option (List Char)) :
    Except UsageError ScopeState :=
  match scope.long? name with
  | none => .error .unknownArgument
  | some flag =>
    if flag.takesValue then s.openFlag flag value
    else if value.isSome then .error .tooManyValues
    else s.raise flag

/-- The value that is attached to a letter. -/
def attached : List Char → Option (List Char)
  | [] => none
  | '=' :: value => some value
  | value => some value

/-- Flags by their letters.  What follows the letter of a flag that takes a value is the value. -/
def short (scope : CommandScope) (s : ScopeState) : List Char → Except UsageError ScopeState
  | [] => .ok s
  | letter :: letters =>
    match scope.short? letter with
    | none => .error .unknownArgument
    | some flag =>
      if flag.takesValue then s.openFlag flag (attached letters)
      else do short scope (← s.raise flag) letters

/-- A word that is no flag. -/
def plain (scope : CommandScope) (s : ScopeState) (word : List Char) :
    Except UsageError ScopeState :=
  match scope.operands, s.pending with
  | .many, .operands texts => .ok { s with pending := .operands (texts ++ [word]) }
  | .many, _ => return { ← s.settle with pending := .operands [word] }
  | .one, _ =>
    if 0 < s.operandCount then .error .unknownArgument
    else return { ← s.settle with pending := .operands [word], operandCount := 1 }
  | .none, _ =>
    if scope == .program && !(s.onlyOperands && (CommandScope.ofCommand? word).isSome) then
      .error .invalidSubcommand
    else .error .unknownArgument

/-- The next word. -/
def word (scope : CommandScope) (s : ScopeState) (word : List Char) :
    Except UsageError ScopeState :=
  if s.onlyOperands then s.plain scope word
  else
    match WordForm.of word, s.pending with
    | .endOfFlags, _ => .ok { s with onlyOperands := true }
    | .long name value, _ => s.long scope name value
    | .short letters, _ => s.short scope letters
    | .plain, .flag flag => .ok { s with pending := .value flag word }
    | .plain, _ => s.plain scope word

/-- Whether a word is the value of the flag before it. -/
def isAwaiting (s : ScopeState) : Bool :=
  match s.pending with
  | .flag _ => true
  | _ => false

end ScopeState

/-! ## 3. Scopes -/

/-- The words after a command. -/
def CommandScope.read (scope : CommandScope) (words : List (List Char)) :
    Except UsageError Given := do
  let s ← words.foldlM (ScopeState.word scope) {}
  return (← s.settle).given

/-- The command of a scope. -/
def CommandScope.command (scope : CommandScope) (g : Given) : Except UsageError Command :=
  match scope with
  | .program => .error .missingSubcommand
  | .tokens => .ok (.tokens (g.operands.headD ['-']) (g.format.getD .raw))
  | .highlight =>
    if g.operands.isEmpty then .error .missingRequiredArgument
    else .ok (.highlight g.operands (g.format.getD .terminal) (g.color.getD .auto) g.theme)
  | .languages => .ok .languages
  | .lint => .ok .lint

/-- What the words after `help` ask for. -/
def helpError : List (List Char) → UsageError
  | [] => .help
  | [name] =>
    if name == "help".toList || (CommandScope.ofCommand? name).isSome then .help
    else .invalidSubcommand
  | _ => .invalidSubcommand

namespace Arguments

/-- What stands before and after the command, together. -/
def combine (before after : Given) (command : Command) : Arguments where
  command
  lexer := after.lexer <|> before.lexer
  options := if after.options.isEmpty then before.options else after.options
  verbosity := if 0 < after.verbosity then after.verbosity else before.verbosity

/-- The words from a place before the command on. -/
def readFrom (s : ScopeState) : List (List Char) → Except UsageError Arguments
  | [] => do
    let g := (← s.settle).given
    throw (if g = {} then .helpForNothing else .missingSubcommand)
  | word :: words =>
    if s.onlyOperands || s.isAwaiting then do readFrom (← s.word .program word) words
    else if word == "help".toList then .error (helpError words)
    else
      match CommandScope.ofCommand? word with
      | none => do readFrom (← s.word .program word) words
      | some scope => do
        let after ← scope.read words
        let command ← scope.command after
        return combine (← s.settle).given after command

/-- What a command line says. -/
def read (words : List (List Char)) : Except UsageError Arguments := readFrom {} words

end Arguments

end Highlighter
