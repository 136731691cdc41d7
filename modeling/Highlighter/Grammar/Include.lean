/-
# Includes

An include stands for the rules of another state at its place.  `Grammar.expand` writes all includes
of a state out and passes over the ones that name no state or lead back to a state that is being
expanded; `Grammar.expand?` reports these instead.

A chain of includes visits no state twice, so it is no longer than the list of states.
-/
import Highlighter.Grammar.Basic
import Highlighter.Grammar.Error

namespace Highlighter

/-- The rules that an entry stands for, given those that an include stands for. -/
def Entry.rules? (included : String → Except GrammarError (List Rule)) :
    Entry → Except GrammarError (List Rule)
  | .rule r => .ok [r]
  | .include state => included state

namespace Grammar

/-- The rules of the state `name`, reached through the states of `path`. -/
def expandFrom (g : Grammar) : (fuel : Nat) → (path : List String) → (name : String) → List Rule
  | 0, _, _ => []
  | fuel + 1, path, name =>
    match g.state? name with
    | none => []
    | some state =>
      if path.contains name then []
      else state.entries.flatMap fun
        | .rule rule => [rule]
        | .include other => g.expandFrom fuel (name :: path) other

/-- The rules of a state in order of precedence, includes written out where that makes sense. -/
def expand (g : Grammar) (name : String) : List Rule :=
  g.expandFrom (g.states.length + 1) [] name

/-- The rules of the state `name`, reached through the states of `path`, the latest first. -/
def expandFrom? (g : Grammar) :
    (fuel : Nat) → (path : List String) → (name : String) → Except GrammarError (List Rule)
  | 0, _, name => .error (.includeCycle name)
  | fuel + 1, path, name =>
    match g.state? name with
    | none => .error (.undefinedState (path.headD "") name)
    | some state =>
      if path.contains name then .error (.includeCycle name)
      else do
        let parts ← state.entries.mapM (Entry.rules? (g.expandFrom? fuel (name :: path)))
        return parts.flatten

/-- The rules of a state in order of precedence; an include that leads nowhere or back is an
error. -/
def expand? (g : Grammar) (name : String) : Except GrammarError (List Rule) :=
  g.expandFrom? (g.states.length + 1) [] name

end Grammar

end Highlighter
