/-
# Terminal output

What is done on a terminal to show tokens: setting a style, going back to none, and writing
(`TerminalAction`).  Every line feed is written without a style, so that colours never run into the
next line.  `Terminal.render` turns the actions into text, with colours or without.
-/
import Highlighter.Style.Theme
import Highlighter.Token.Basic

namespace Highlighter

/-- What a style comes to on a terminal. -/
structure TerminalStyle where
  color : Option Color
  bold : Bool
  italic : Bool
  underline : Bool
  deriving DecidableEq

/-- A style on a terminal.  A colour that cannot be read is left out. -/
def Style.onTerminal (s : Style) : TerminalStyle := ⟨s.color?, s.bold, s.italic, s.underline⟩

/-- Something done on a terminal. -/
inductive TerminalAction where
  | set (style : TerminalStyle)
  | reset
  | write (text : List Char)
  deriving DecidableEq

namespace Terminal

/-! ## 1. Actions -/

/-- Lines after the first one, each after a line feed without a style. -/
def laterLines (style : TerminalStyle) (lines : List (List Char)) : List TerminalAction :=
  lines.flatMap fun line => [.reset, .write ['\n'], .set style, .write line]

/-- A text in a style. -/
def styled (style : TerminalStyle) (text : List Char) : List TerminalAction :=
  match Text.splitAt '\n' text with
  | [] => []
  | line :: lines => [.set style, .write line] ++ laterLines style lines ++ [.reset]

/-- A token. -/
def token (theme : Theme) (t : Token) : List TerminalAction :=
  match theme.styleFor t.kind with
  | some style => styled style.onTerminal t.text
  | none => [.write t.text]

/-- All tokens. -/
def actions (theme : Theme) (tokens : List Token) : List TerminalAction :=
  tokens.flatMap (token theme)

/-! ## 2. Text -/

/-- The sequence that sets parameters. -/
def sequence (parameters : List Nat) : List Char :=
  ['\x1b', '['] ++ [';'].intercalate (parameters.map fun n => Nat.toDigits 10 n) ++ ['m']

/-- The sequence that goes back to no style. -/
def resetSequence : List Char := sequence [0]

/-- The sequences that set a style, whatever was set before. -/
def styleSequences (s : TerminalStyle) : List Char :=
  resetSequence ++ (if s.bold then sequence [1] else []) ++
    (if s.italic then sequence [3] else []) ++ (if s.underline then sequence [4] else []) ++
    match s.color with
    | some color => sequence color.codes
    | none => []

/-- What an action writes. -/
def renderAction (colored : Bool) : TerminalAction → List Char
  | .set style => if colored then styleSequences style else []
  | .reset => if colored then resetSequence else []
  | .write text => text

/-- What actions write. -/
def render (colored : Bool) (as : List TerminalAction) : List Char :=
  as.flatMap (renderAction colored)

/-- Tokens as they are shown on a terminal. -/
def write (colored : Bool) (theme : Theme) (tokens : List Token) : List Char :=
  render colored (actions theme tokens)

end Terminal

end Highlighter
