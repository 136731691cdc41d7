/-
# Compiled tables

What a grammar is compiled to: includes are written out, patterns are read, and states are referred
to by their position.
-/
import Highlighter.Grammar.Basic
import Highlighter.Regex.Pattern

namespace Highlighter

/-- A state of a table, by its position. -/
abbrev StateId := Nat

/-- A rule of a table. -/
structure TableRule where
  /-- The text of the pattern. -/
  source : String
  pattern : Pattern
  action : Action StateId
  transition : Option (Transition StateId)
  deriving DecidableEq

/-- A state of a table. -/
structure TableState where
  name : String
  rules : List TableRule
  fallback : Option (Transition StateId)
  deriving DecidableEq

/-- A compiled lexer table. -/
structure Table where
  name : String
  initial : StateId
  states : List TableState
  deriving DecidableEq

namespace Table

/-- The state at a position.  A position without a state stands for a state that matches
nothing. -/
def state (t : Table) (id : StateId) : TableState := (t.states[id]?).getD ⟨"", [], none⟩

/-- The name of a state. -/
def stateName (t : Table) (id : StateId) : String := (t.state id).name

/-- The state with a name. -/
def stateId? (t : Table) (name : String) : Option StateId := t.states.findIdx? (·.name == name)

end Table

end Highlighter
