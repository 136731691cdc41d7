/-
# Compiling a grammar

`Grammar.compile` checks a grammar and turns it into a table.  Everything that can be wrong with a
grammar is found here, so that lexing has no errors of its own.  The first thing wrong is reported,
in this order: names declared twice, the initial state, and then state by state the includes, each
rule, and the fallback.
-/
import Highlighter.Grammar.Include
import Highlighter.Lexer.Table
import Highlighter.Regex.Analysis
import Highlighter.Regex.Parser

namespace Highlighter

namespace GrammarFlags

/-- The flags under which patterns of a grammar are read. -/
def patternFlags (f : GrammarFlags) : PatternFlags where
  caseInsensitive := f.caseInsensitive
  multiLine := f.multiLine
  dotAll := f.dotMatchesNewLine

end GrammarFlags

namespace Grammar

/-! ## 1. References -/

/-- The position of a declared state, for a reference from the state `source`. -/
def resolve (g : Grammar) (source target : String) : Except GrammarError StateId :=
  match g.states.findIdx? (·.name == target) with
  | some id => .ok id
  | none => .error (.undefinedState source target)

/-- A transition with its states resolved.  `index` is the rule that it belongs to. -/
def resolveTransition (g : Grammar) (source : String) (index : Nat) :
    Transition String → Except GrammarError (Transition StateId)
  | .push targets => return .push (← targets.mapM (g.resolve source))
  | .pushCurrent => .ok .pushCurrent
  | .pop 0 => .error (.zeroPop source index)
  | .pop n => .ok (.pop n)
  | .replace target => return .replace (← g.resolve source target)

/-- A group action with its state resolved. -/
def resolveGroup (g : Grammar) (source : String) :
    GroupAction String → Except GrammarError (GroupAction StateId)
  | .token kind => .ok (.token kind)
  | .using target => return .using (← g.resolve source target)
  | .skip => .ok .skip

/-- An action with its states resolved. -/
def resolveAction (g : Grammar) (source : String) :
    Action String → Except GrammarError (Action StateId)
  | .token kind => .ok (.token kind)
  | .groups actions gap => return .groups (← actions.mapM (g.resolveGroup source)) gap

/-- A transition that may be missing. -/
def resolveOptional (g : Grammar) (source : String) (index : Nat) :
    Option (Transition String) → Except GrammarError (Option (Transition StateId))
  | none => .ok none
  | some transition => return some (← g.resolveTransition source index transition)

/-! ## 2. Rules -/

/-- Read and check the pattern of a rule. -/
def compilePattern (g : Grammar) (state : String) (index : Nat) (rule : Rule) :
    Except GrammarError Pattern :=
  match Pattern.parse g.flags.patternFlags rule.pattern with
  | .error reason => .error (.invalidPattern state index rule.pattern reason)
  | .ok pattern =>
    if pattern.minLength = some 0 then .error (.emptyMatch state index rule.pattern)
    else
      match rule.action with
      | .token _ => .ok pattern
      | .groups actions _ =>
        if pattern.groupCount < actions.length then
          .error (.groupCountMismatch state index actions.length pattern.groupCount)
        else .ok pattern

/-- Compile the rule at a position of a state. -/
def compileRule (g : Grammar) (state : String) (index : Nat) (rule : Rule) :
    Except GrammarError TableRule := do
  let pattern ← g.compilePattern state index rule
  if Pattern.maxWeight < pattern.weight then
    throw (.invalidPattern state index rule.pattern .tooLarge)
  let action ← g.resolveAction state rule.action
  let transition ← g.resolveOptional state index rule.transition
  return ⟨rule.pattern, pattern, action, transition⟩

/-- Compile the rules from a position on. -/
def compileRules (g : Grammar) (state : String) :
    (index : Nat) → List Rule → Except GrammarError (List TableRule)
  | _, [] => .ok []
  | index, rule :: rules => do
    let rule ← g.compileRule state index rule
    let rules ← g.compileRules state (index + 1) rules
    return rule :: rules

/-! ## 3. States -/

/-- Compile a state.  A fallback that pops nothing is reported as if it were the first rule. -/
def compileState (g : Grammar) (state : State) : Except GrammarError TableState := do
  let rules ← g.expand? state.name
  let rules ← g.compileRules state.name 0 rules
  let fallback ← g.resolveOptional state.name 0 state.fallback
  return ⟨state.name, rules, fallback⟩

/-- The first name that is declared a second time. -/
def duplicate? : (seen : List String) → List String → Option String
  | _, [] => none
  | seen, name :: names =>
    if seen.contains name then some name else duplicate? (name :: seen) names

/-- Check a grammar and turn it into a table. -/
def compile (g : Grammar) : Except GrammarError Table := do
  if let some state := duplicate? [] (g.states.map (·.name)) then
    throw (.duplicateState state)
  match g.states.findIdx? (·.name == g.initial) with
  | none => throw (.missingInitialState g.name g.initial)
  | some initial =>
    let states ← g.states.mapM g.compileState
    return ⟨g.name, initial, states⟩

end Grammar

end Highlighter
