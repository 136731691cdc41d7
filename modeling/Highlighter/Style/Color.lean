/-
# Colours

The colours of a terminal: eight with names, 256 with numbers, and those given by their parts
(`Color`).  `Color.parse?` reads a colour, `Color.codes` gives the parameters of the sequence that
sets it.
-/
import Highlighter.Text.Digits
import Highlighter.Text.Trim
import Highlighter.Unicode.Fold

namespace Highlighter

/-- A colour of text. -/
inductive Color where
  | black | blue | green | red | cyan | magenta | yellow | white
  | ansi (n : Nat)
  | rgb (r g b : Nat)
  deriving DecidableEq

namespace Color

/-! ## 1. Reading -/

/-- The colour with a name. -/
def named? (name : String) : Option Color :=
  if name == "black" then some black
  else if name == "blue" then some blue
  else if name == "green" then some green
  else if name == "red" then some red
  else if name == "cyan" then some cyan
  else if name == "magenta" then some magenta
  else if name == "yellow" then some yellow
  else if name == "white" then some white
  else none

/-- A number below 256, in hexadecimal after `0x` and in decimal otherwise. -/
def byte? (text : List Char) : Option Nat :=
  match text with
  | '0' :: 'x' :: digits => Digits.hexNatural? 255 digits
  | digits => Digits.natural? 255 digits

/-- A colour by its name, its number, or the three numbers of its parts. -/
def parse? (text : List Char) : Option Color :=
  match named? (String.ofList (text.map Fold.char)) with
  | some c => some c
  | none =>
    match Text.splitAt ',' text with
    | [n] => (byte? n).map ansi
    | [r, g, b] => do return rgb (← byte? r) (← byte? g) (← byte? b)
    | _ => none

/-! ## 2. Writing -/

/-- The parameters that set the colour of text. -/
def codes : Color → List Nat
  | black => [30]
  | red => [31]
  | green => [32]
  | yellow => [33]
  | blue => [34]
  | magenta => [35]
  | cyan => [36]
  | white => [37]
  | ansi n => [38, 5, n]
  | rgb r g b => [38, 2, r, g, b]

/-- The colour in words. -/
def text : Color → String
  | black => "Black"
  | blue => "Blue"
  | green => "Green"
  | red => "Red"
  | cyan => "Cyan"
  | magenta => "Magenta"
  | yellow => "Yellow"
  | white => "White"
  | ansi n => s!"Ansi256({n})"
  | rgb r g b => s!"Rgb({r}, {g}, {b})"

end Color

end Highlighter
