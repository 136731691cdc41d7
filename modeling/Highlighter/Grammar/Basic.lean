/-
# Grammars

A lexer grammar as it is declared: named states, each with an ordered list of rules.  A rule has a
pattern, says what becomes of the matched text (`Action`), and may change the stack of states
(`Transition`).  The order of rules is their precedence.

Transitions and actions speak of states by name here and by number in a compiled table, so their
types have the kind of reference as a parameter.
-/
import Highlighter.Token.Basic

namespace Highlighter

/-- Switches for all patterns of a grammar. -/
structure GrammarFlags where
  /-- `^` and `$` also hold at line ends. -/
  multiLine : Bool := false
  /-- `.` also stands for a line feed. -/
  dotMatchesNewLine : Bool := false
  /-- Letters stand for both cases. -/
  caseInsensitive : Bool := false
  deriving DecidableEq

/-- A change to the stack of states. -/
inductive Transition (σ : Type) where
  /-- Push each state in order, so that the last one ends up on top. -/
  | push (states : List σ)
  /-- Push the current state once more. -/
  | pushCurrent
  /-- Pop so many states, but never the bottom one. -/
  | pop (count : Nat)
  /-- Put another state in the place of the current one. -/
  | replace (state : σ)
  deriving DecidableEq

/-- What becomes of the text of one group. -/
inductive GroupAction (σ : Type) where
  /-- It is a token. -/
  | token (kind : Kind)
  /-- It is lexed on its own, beginning in a state. -/
  | using (state : σ)
  /-- It is left to the text between the groups. -/
  | skip
  deriving DecidableEq

/-- What becomes of the text that a rule matches. -/
inductive Action (σ : Type) where
  /-- It is one token. -/
  | token (kind : Kind)
  /-- Group `i + 1` is handled by action `i`; text outside of the groups so handled is of kind
  `gap`. -/
  | groups (actions : List (GroupAction σ)) (gap : Kind)
  deriving DecidableEq

/-- A list of literal words with a pattern that has to follow each of them. -/
structure Words where
  words : List String
  suffix : String
  deriving DecidableEq

/-- A lexer rule. -/
structure Rule where
  pattern : String
  action : Action String
  transition : Option (Transition String) := none
  /-- The words that the pattern was made from, if it was. -/
  words : Option Words := none
  deriving DecidableEq

/-- An entry of a state: a rule, or all rules of another state. -/
inductive Entry where
  | rule (rule : Rule)
  | include (state : String)
  deriving DecidableEq

/-- A state of a lexer. -/
structure State where
  name : String
  entries : List Entry
  /-- Applied where no rule matches, without consuming anything. -/
  fallback : Option (Transition String) := none
  deriving DecidableEq

/-- A lexer grammar. -/
structure Grammar where
  name : String
  initial : String := "root"
  flags : GrammarFlags := {}
  states : List State
  deriving DecidableEq

namespace Transition

variable {σ τ : Type}

/-- The states that a transition names. -/
def targets : Transition σ → List σ
  | push states => states
  | pushCurrent => []
  | pop _ => []
  | replace state => [state]

/-- Refer to the states in another way. -/
def map (f : σ → τ) : Transition σ → Transition τ
  | push states => push (states.map f)
  | pushCurrent => pushCurrent
  | pop count => pop count
  | replace state => replace (f state)

@[simp] theorem targets_map (f : σ → τ) (t : Transition σ) :
    (t.map f).targets = t.targets.map f := by
  cases t <;> rfl

end Transition

namespace GroupAction

variable {σ τ : Type}

/-- The state in which the group is lexed. -/
def target? : GroupAction σ → Option σ
  | .using state => some state
  | _ => none

/-- Refer to the state in another way. -/
def map (f : σ → τ) : GroupAction σ → GroupAction τ
  | .token kind => .token kind
  | .using state => .using (f state)
  | .skip => .skip

@[simp] theorem target?_map (f : σ → τ) (a : GroupAction σ) :
    (a.map f).target? = a.target?.map f := by
  cases a <;> rfl

end GroupAction

namespace Action

variable {σ τ : Type}

/-- The states in which groups are lexed. -/
def targets : Action σ → List σ
  | token _ => []
  | groups actions _ => actions.filterMap GroupAction.target?

/-- Refer to the states in another way. -/
def map (f : σ → τ) : Action σ → Action τ
  | token kind => token kind
  | groups actions gap => groups (actions.map (GroupAction.map f)) gap

@[simp] theorem targets_map (f : σ → τ) (a : Action σ) :
    (a.map f).targets = a.targets.map f := by
  cases a with
  | token kind => rfl
  | groups actions gap =>
    have h : GroupAction.target? ∘ GroupAction.map f = fun a => (GroupAction.target? a).map f :=
      funext fun a => GroupAction.target?_map f a
    simp only [map, targets, List.filterMap_map, List.map_filterMap, h]

end Action

namespace Grammar

/-- The first state with a name. -/
def state? (g : Grammar) (name : String) : Option State := g.states.find? (·.name == name)

end Grammar

end Highlighter
