/-
# Options

What is done to a text before it is lexed (`TextOptions.prepare`), always in the same order: line
ends, tabs, stripping, and a line feed at the end.  Everything is off by default, and then the text
stays as it is.

An option is set by an assignment such as `ensure_nl=true` (`TextOptions.set`).
-/
import Highlighter.Text.Digits
import Highlighter.Text.Trim

namespace Highlighter

/-- What is done to a text before it is lexed. -/
structure TextOptions where
  /-- Strip line feeds at both ends. -/
  stripNewlines : Bool := false
  /-- Strip white space at both ends. -/
  stripAll : Bool := false
  /-- Append a line feed if the text does not end with one. -/
  ensureNewline : Bool := false
  /-- Put so many spaces in the place of a tab, unless zero. -/
  tabSize : Nat := 0
  /-- Make every line end a line feed. -/
  normalizeNewlines : Bool := false
  deriving DecidableEq

namespace TextOptions

/-! ## 1. Preparing a text -/

/-- Drop the carriage return of each carriage return and line feed. -/
def joinLineEnds : List Char → List Char
  | [] => []
  | '\r' :: '\n' :: cs => '\n' :: joinLineEnds cs
  | c :: cs => c :: joinLineEnds cs

/-- A line feed for every line end: first for each pair, then for each carriage return left. -/
def unifyLineEnds (text : List Char) : List Char :=
  (joinLineEnds text).map fun c => if c == '\r' then '\n' else c

/-- Spaces for every tab. -/
def expandTabs (size : Nat) (text : List Char) : List Char :=
  text.flatMap fun c => if c == '\t' then List.replicate size ' ' else [c]

/-- A line feed at the end. -/
def closeLine (text : List Char) : List Char :=
  if text.getLast? == some '\n' then text else text ++ ['\n']

/-- What the options make of a text. -/
def prepare (o : TextOptions) (text : List Char) : List Char :=
  let text := if o.normalizeNewlines then unifyLineEnds text else text
  let text := if 0 < o.tabSize then expandTabs o.tabSize text else text
  let text :=
    if o.stripAll then Text.trim text
    else if o.stripNewlines then Text.trimWhere (· == '\n') text
    else text
  if o.ensureNewline then closeLine text else text

/-- Whether all options are off. -/
def isLossless (o : TextOptions) : Bool := o == {}

/-! ## 2. Assignments -/

/-- An assignment that names no option or gives it no value. -/
structure InvalidAssignment where
  assignment : List Char
  deriving DecidableEq

/-- The options, by the names that assignments use. -/
inductive Key where
  | stripNewlines | stripAll | ensureNewline | normalizeNewlines | tabSize
  deriving DecidableEq

/-- The option with a name; most have two. -/
def Key.ofName? (name : String) : Option Key :=
  if name == "strip_nl" || name == "stripnl" then some stripNewlines
  else if name == "strip_all" || name == "stripall" then some stripAll
  else if name == "ensure_nl" || name == "ensurenl" then some ensureNewline
  else if name == "normalize_newlines" then some normalizeNewlines
  else if name == "tab_size" || name == "tabsize" then some tabSize
  else none

/-- A switch position. -/
def switch? (value : List Char) : Option Bool :=
  let value := String.ofList ((Text.trim value).map CharClass.asciiLower)
  if ["1", "true", "yes", "on"].contains value then some true
  else if ["0", "false", "no", "off"].contains value then some false
  else none

/-- The largest tab size. -/
def maxTabSize : Nat := 18446744073709551615

/-- Give an option a value. -/
def assign? (o : TextOptions) (key : Key) (value : List Char) : Option TextOptions :=
  match key with
  | .stripNewlines => (switch? value).map fun b => { o with stripNewlines := b }
  | .stripAll => (switch? value).map fun b => { o with stripAll := b }
  | .ensureNewline => (switch? value).map fun b => { o with ensureNewline := b }
  | .normalizeNewlines => (switch? value).map fun b => { o with normalizeNewlines := b }
  | .tabSize => (Digits.natural? maxTabSize (Text.trim value)).map fun n => { o with tabSize := n }

/-- Carry an assignment out. -/
def set (o : TextOptions) (assignment : List Char) : Except InvalidAssignment TextOptions :=
  let changed := do
    let (name, value) ← Text.splitOnce? '=' assignment
    let key ← Key.ofName? (String.ofList (Text.trim name))
    o.assign? key value
  match changed with
  | some o => .ok o
  | none => .error ⟨assignment⟩

/-- Carry assignments out one after the other. -/
def setAll (o : TextOptions) (assignments : List (List Char)) :
    Except InvalidAssignment TextOptions :=
  assignments.foldlM set o

/-- The options given by a list of assignments separated by commas; blank ones are left out. -/
def ofList (text : List Char) : Except InvalidAssignment TextOptions :=
  setAll {} ((Text.splitAt ',' text).filter fun part => !(Text.trim part).isEmpty)

end TextOptions

end Highlighter
