/-
# Styles and themes in JSON
-/
import Highlighter.Style.Theme
import Highlighter.Token.Json

namespace Highlighter

/-! ## 1. Styles -/

namespace Style

/-- The members of the written form, in order. -/
def memberNames : List String := ["fg", "bold", "italic", "underline"]

/-- A style is written with all its members. -/
def toJson (s : Style) : List Char :=
  Json.writeMembers [
    ("fg".toList, Json.writeOptionalString s.foreground),
    ("bold".toList, Json.writeBoolean s.bold),
    ("italic".toList, Json.writeBoolean s.italic),
    ("underline".toList, Json.writeBoolean s.underline)]

/-- A style with members still missing. -/
structure Partial where
  foreground : Option (Option (List Char)) := none
  bold : Option Bool := none
  italic : Option Bool := none
  underline : Option Bool := none

/-- Reads a member. -/
def member (p : Partial) (name : List Char) : Except JsonError (JsonReader Partial) :=
  if name == "fg".toList then
    Json.once "fg" p.foreground Json.optionalString fun text => { p with foreground := some text }
  else if name == "bold".toList then
    Json.once "bold" p.bold Json.boolean fun b => { p with bold := some b }
  else if name == "italic".toList then
    Json.once "italic" p.italic Json.boolean fun b => { p with italic := some b }
  else if name == "underline".toList then
    Json.once "underline" p.underline Json.boolean fun b => { p with underline := some b }
  else .error (.data (.unknownField name memberNames))

/-- Missing members have their default values. -/
def Partial.complete (p : Partial) : Style where
  foreground := p.foreground.getD none
  bold := p.bold.getD false
  italic := p.italic.getD false
  underline := p.underline.getD false

/-- Reads a style that is given as a map. -/
def mapReader : JsonReader Style := fun cs => do
  let (p, rest) ← Json.members member {} cs
  return (p.complete, rest)

/-- Reads a style that is given as a sequence. -/
def sequenceReader : JsonReader Style := fun cs => do
  let (foreground, cs) ← Json.elementOr true Json.optionalString none cs
  let (bold, cs) ← Json.elementOr false Json.boolean false cs
  let (italic, cs) ← Json.elementOr false Json.boolean false cs
  let (underline, cs) ← Json.elementOr false Json.boolean false cs
  return ({ foreground, bold, italic, underline }, cs)

/-- Reads a style. -/
def reader : JsonReader Style := Json.record "struct Style" mapReader sequenceReader

end Style

/-! ## 2. Themes -/

namespace Theme

/-- A theme is written as a map of the kinds that it styles, in their order. -/
def toJson (t : Theme) : List Char :=
  Json.writeMembers <| Kind.all.filterMap fun k =>
    (t.style? k).map fun s => (k.dotted.toList, s.toJson)

/-- Reads a member.  A kind that is given again has the later style. -/
def member (t : Theme) (name : List Char) : Except JsonError (JsonReader Theme) :=
  (Kind.ofJsonName name).map fun k cs =>
    (Style.reader cs).map fun (style, rest) => (t.set k style, rest)

/-- Reads a theme. -/
def reader : JsonReader Theme := fun cs =>
  match Json.blank cs with
  | '\x7b' :: cs => Json.members member .empty cs
  | cs => Json.mismatch "a map" cs

/-- The theme that a document holds. -/
def ofJson (text : String) : Except JsonError Theme := Json.document reader text

end Theme

end Highlighter
