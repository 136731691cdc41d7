/-
# Errors of a grammar

Why a grammar cannot be compiled (`GrammarError`), and how each cause is reported: a message, a
code, advice, and for a pattern the place of the mistake.
-/
import Highlighter.Regex.Reader
import Highlighter.Token.Basic

namespace Highlighter

/-- Why a grammar cannot be compiled. -/
inductive GrammarError where
  | missingInitialState (grammar state : String)
  | duplicateState (state : String)
  | undefinedState (source target : String)
  | includeCycle (state : String)
  | invalidPattern (state : String) (index : Nat) (pattern : String) (reason : PatternError)
  | emptyMatch (state : String) (index : Nat) (pattern : String)
  | groupCountMismatch (state : String) (index actions groups : Nat)
  | zeroPop (state : String) (index : Nat)
  deriving DecidableEq

/-- A part of a source text that a report points at. -/
structure SourceLabel where
  /-- What the source text is called. -/
  source : String
  text : String
  label : String
  /-- The part pointed at, in bytes. -/
  span : Span
  deriving DecidableEq

namespace GrammarError

/-- The message.  It leaves the reason for an invalid pattern out. -/
def message : GrammarError → String
  | missingInitialState grammar state =>
    s!"grammar `{grammar}` has no initial state `{state}`"
  | duplicateState state => s!"state `{state}` is declared more than once"
  | undefinedState source target => s!"state `{source}` refers to undefined state `{target}`"
  | includeCycle state => s!"include cycle through state `{state}`"
  | invalidPattern state index _ _ => s!"invalid pattern in state `{state}`, rule {index}: "
  | emptyMatch state index _ =>
    s!"pattern in state `{state}`, rule {index} can match the empty string"
  | groupCountMismatch state index actions groups =>
    s!"rule {index} in state `{state}` maps {actions} groups but its pattern has only {groups}"
  | zeroPop state index => s!"rule {index} in state `{state}` pops zero states"

/-- The code under which an error is documented. -/
def code : GrammarError → String
  | missingInitialState .. => "shadow::config::missing_initial_state"
  | duplicateState .. => "shadow::config::duplicate_state"
  | undefinedState .. => "shadow::config::undefined_state"
  | includeCycle .. => "shadow::config::include_cycle"
  | invalidPattern .. => "shadow::config::invalid_pattern"
  | emptyMatch .. => "shadow::config::empty_match"
  | groupCountMismatch .. => "shadow::config::group_count"
  | zeroPop .. => "shadow::config::zero_pop"

/-- Advice. -/
def help? : GrammarError → Option String
  | missingInitialState .. => some "declare the state or change the grammar's initial state"
  | undefinedState .. =>
    some "every pushed, included or sub-lexed state must be declared in the grammar"
  | emptyMatch .. =>
    some "rules must consume input; use the state's fallback transition for empty matches"
  | zeroPop .. => some "use no transition instead of `Pop(0)`"
  | _ => none

/-- The pattern at fault, called after its state and position. -/
def label? : GrammarError → Option SourceLabel
  | invalidPattern state index pattern _ =>
    some ⟨s!"{state}[{index}]", pattern, "does not compile", ⟨0, pattern.utf8ByteSize⟩⟩
  | emptyMatch state index pattern =>
    some ⟨s!"{state}[{index}]", pattern, "may match nothing", ⟨0, pattern.utf8ByteSize⟩⟩
  | _ => none

end GrammarError

end Highlighter
