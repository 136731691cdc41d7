/-
# Themes

A theme says how tokens of a kind are shown (`Theme`).  A kind that it says nothing about is shown
like the kind above it, so a theme that styles `Keyword` also styles `Keyword.Type`
(`Theme.styleFor`).
-/
import Highlighter.Style.Color
import Highlighter.Token.Kind

namespace Highlighter

/-- How a token is shown. -/
structure Style where
  /-- The colour, as it was written. -/
  foreground : Option (List Char) := none
  bold : Bool := false
  italic : Bool := false
  underline : Bool := false
  deriving DecidableEq

namespace Style

/-- The colour, if what was written is one. -/
def color? (s : Style) : Option Color := s.foreground.bind Color.parse?

/-- A style of just a colour. -/
def colored (color : String) : Style := { foreground := some color.toList }

end Style

/-- How tokens are shown, by their kind. -/
structure Theme where
  /-- The style that is given for the kind itself. -/
  style? : Kind → Option Style

namespace Theme

/-- The theme that says nothing. -/
def empty : Theme := ⟨fun _ => none⟩

/-- Give a kind a style. -/
def set (t : Theme) (kind : Kind) (style : Style) : Theme :=
  ⟨fun k => if k = kind then some style else t.style? k⟩

/-- The style of a kind, or of the nearest kind above it that has one. -/
def styleFor (t : Theme) (kind : Kind) : Option Style := kind.lineage.findSome? t.style?

/-- The theme that is used unless another is given. -/
def standard : Theme where
  style?
    | .comment => some { Style.colored "white" with italic := true }
    | .keyword => some { Style.colored "magenta" with bold := true }
    | .keywordType => some (.colored "cyan")
    | .keywordConstant => some (.colored "yellow")
    | .nameFunction => some { Style.colored "blue" with bold := true }
    | .nameClass => some { Style.colored "yellow" with bold := true }
    | .nameNamespace => some { Style.colored "cyan" with bold := true }
    | .nameDecorator => some (.colored "magenta")
    | .string => some (.colored "green")
    | .number => some (.colored "yellow")
    | .operator => some (.colored "red")
    | .error => some { Style.colored "red" with underline := true }
    | _ => none

end Theme

end Highlighter
