/-
# Carrying a command out

What a command writes, and the error that ends it, if one does (`Outcome`).  Several files are dealt
with one after the other; what was written before the first one that cannot be read stays written
(`Command.blocks`).
-/
import Highlighter.Command.Error
import Highlighter.Command.Usage
import Highlighter.Grammar.Lint
import Highlighter.Lexer.Stream
import Highlighter.Options.Basic
import Highlighter.Registry.Builtin
import Highlighter.Style.Json

namespace Highlighter

/-- What a command can see of the world. -/
structure Surroundings where
  files : FileSystem
  standardInput : ByteArray
  /-- Whether the output goes to a terminal. -/
  onTerminal : Bool := false

/-- What a command has written, and the error that ended it. -/
structure Outcome where
  output : List Char
  error : Option CommandError
  deriving DecidableEq

namespace Outcome

/-- A command that ends well. -/
def success (output : List Char) : Outcome := ⟨output, none⟩

/-- A command that fails before it writes anything. -/
def failure (error : CommandError) : Outcome := ⟨[], some error⟩

/-- An outcome or the error that prevents it. -/
def ofExcept : Except CommandError Outcome → Outcome
  | .ok outcome => outcome
  | .error error => failure error

end Outcome

namespace Command

/-! ## 1. Input -/

/-- Where the text of an input comes from. -/
inductive Source where
  | standardInput
  | file (content : ByteArray)
  | unreadable (reason : ReadFailure)

/-- Something to be highlighted. -/
structure Input where
  path : Path
  source : Source

/-- Whether a path stands for the standard input. -/
def isStandardInput (path : Path) : Bool :=
  !Path.isAbsolute path && Path.parts path == [['-']]

/-- What a path that is not a directory stands for. -/
def sourceOf (path : Path) (node : Except ReadFailure FileTree) : Source :=
  if isStandardInput path then .standardInput
  else
    match node with
    | .ok (.file content) => .file content
    | .ok (.directory _) => .unreadable .isADirectory
    | .error reason => .unreadable reason

/-- The inputs below a directory: every file that a language claims by its name. -/
def inputsBelow (registry : Registry) (path : Path) (tree : FileTree) : List Input :=
  tree.files.filterMap fun (names, content) =>
    let file := names.foldl Path.below path
    if (registry.forFile? file).isSome then some ⟨file, .file content⟩ else none

/-- The inputs that a path stands for. -/
def inputsAt (registry : Registry) (files : FileSystem) (path : Path) : List Input :=
  match files path with
  | .ok (.directory entries) => inputsBelow registry path (.directory entries)
  | node => [⟨path, sourceOf path node⟩]

/-- The inputs that paths stand for, in order. -/
def inputs (registry : Registry) (files : FileSystem) (paths : List Path) : List Input :=
  paths.flatMap (inputsAt registry files)

/-- The text of an input, and what is left of the standard input. -/
def readInput (standardInput : ByteArray) (i : Input) :
    Except CommandError (List Char × ByteArray) :=
  let text (content : ByteArray) : Except CommandError (List Char) :=
    (decodeText content).mapError (.unreadable i.path)
  match i.source with
  | .standardInput => return (← text standardInput, .empty)
  | .file content => return (← text content, standardInput)
  | .unreadable reason => throw (.unreadable i.path reason)

/-! ## 2. Languages -/

/-- The language of a text: the one asked for, or the one that claims the file, or the one that
seems likely, or Shadow. -/
def selectLanguage (registry : Registry) (lexer : Option (List Char)) (path : Option Path)
    (text : List Char) : Except CommandError Language :=
  match lexer with
  | some name =>
    match registry.byAlias? (String.ofList name) with
    | some language => .ok language
    | none => .error (.unknownLexer name)
  | none =>
    let claimed := path.bind registry.forFile?
    .ok ((claimed <|> registry.guess? text).getD Shadow.language)

/-- Whether colours are written. -/
def isColored (onTerminal : Bool) : ColorMode → Bool
  | .auto => onTerminal
  | .always => true
  | .never => false

/-! ## 3. Highlighting -/

/-- How texts are highlighted. -/
structure Session where
  registry : Registry
  lexer : Option (List Char)
  options : TextOptions
  format : Format
  colored : Bool
  theme : Theme

/-- A text, highlighted. -/
def Session.highlight (s : Session) (language : Language) (text : List Char) : List Char :=
  s.format.write s.colored s.theme (language.table.tokenize (s.options.prepare text))

/-- The line before the text of a file. -/
def header (path : Path) : List Char := "==> ".toList ++ path ++ " <==\n".toList

/-- What is written for an input, and what is left of the standard input. -/
def block (s : Session) (showHeader : Bool) (standardInput : ByteArray) (i : Input) :
    Except CommandError (List Char × ByteArray) := do
  let (text, standardInput) ← readInput standardInput i
  let language ← selectLanguage s.registry s.lexer (some i.path) text
  return ((if showHeader then header i.path else []) ++ s.highlight language text, standardInput)

/-- What is written for inputs, up to the first one that fails. -/
def blocks (s : Session) (showHeader : Bool) : (standardInput : ByteArray) → List Input → Outcome
  | _, [] => .success []
  | standardInput, i :: is =>
    match block s showHeader standardInput i with
    | .error error => .failure error
    | .ok (written, standardInput) =>
      let rest := blocks s showHeader standardInput is
      { rest with output := written ++ rest.output }

/-- The theme in a file, or the standard one. -/
def loadTheme (files : FileSystem) : Option Path → Except CommandError Theme
  | none => .ok .standard
  | some path => do
    let text ← (files.readText path).mapError (.unreadable path)
    (Theme.ofJson (String.ofList text)).mapError (.invalidTheme path)

/-! ## 4. Commands -/

/-- The tokens of a file. -/
def runTokens (w : Surroundings) (s : Session) (path : Path) : Except CommandError Outcome := do
  let (text, _) ← readInput w.standardInput ⟨path, sourceOf path (w.files path)⟩
  let named := if isStandardInput path then none else some path
  let language ← selectLanguage s.registry s.lexer named text
  return .success (s.highlight language text)

/-- Highlight files, with headers if there are several. -/
def runHighlight (w : Surroundings) (s : Session) (paths : List Path) : Outcome :=
  let is := inputs s.registry w.files paths
  blocks s (1 < is.length) w.standardInput is

/-- The line of a language in the list of languages. -/
def languageLine (info : LanguageInfo) : List Char :=
  let list (names : List String) := ", ".intercalate names
  (info.name ++ "\taliases: " ++ list info.aliases ++ "\tfiles: " ++ list info.filenames ++
    "\tmimetypes: " ++ list info.mimeTypes ++ "\n").toList

/-- The list of languages. -/
def runLanguages (registry : Registry) : Outcome :=
  .success (registry.languages.flatMap fun l => languageLine l.info)

/-- The lines about the findings in a language's grammar. -/
def findingLines (name : String) (findings : List Finding) : List Char :=
  if findings.isEmpty then (name ++ ": ok\n").toList
  else findings.flatMap fun f => (name ++ ": " ++ f.text ++ "\n").toList

/-- Check the grammars of languages; `count` findings have been made before. -/
def lintFrom : (count : Nat) → List Language → Outcome
  | count, [] => ⟨[], if 0 < count then some (.findings count) else none⟩
  | count, l :: ls =>
    match l.grammar.compile with
    | .error reason => .failure (.invalidGrammar reason)
    | .ok _ =>
      let findings := l.grammar.lint
      let rest := lintFrom (count + findings.length) ls
      { rest with output := findingLines l.info.name findings ++ rest.output }

/-- The options that assignments on the command line come to. -/
def readOptions (assignments : List (List Char)) : Except CommandError TextOptions :=
  (TextOptions.setAll {} assignments).mapError fun e => .invalidOption e.assignment

/-- Carry out what a command line says. -/
def run (registry : Registry) (w : Surroundings) (args : Arguments) : Outcome :=
  .ofExcept do
    let options ← readOptions args.options
    match args.command with
    | .tokens file format =>
      let colored := isColored w.onTerminal .auto
      runTokens w ⟨registry, args.lexer, options, format, colored, .standard⟩ file
    | .highlight paths format color theme =>
      let theme ← loadTheme w.files theme
      let colored := isColored w.onTerminal color
      return runHighlight w ⟨registry, args.lexer, options, format, colored, theme⟩ paths
    | .languages => return runLanguages registry
    | .lint => return lintFrom 0 registry.languages

end Command

end Highlighter
