/-
# The tokens of a match

A rule with group actions splits its match into tokens (`groupTokens`).  A group is handled if its
action does not skip it, it took something, and what it took begins at or after the end of the group
handled before it.  The text between handled groups is of the rule's gap kind, and so nothing of the
match is lost, whatever the groups took.
-/
import Highlighter.Lexer.Table
import Highlighter.Regex.Match

namespace Highlighter

/-- Lexes a text by itself, beginning in a state; the number is the byte offset of the text. -/
abbrev SubLexer := StateId → List Char → Nat → List Token

namespace Emission

/-- A text as a token, unless it is empty. -/
def piece (kind : Kind) (text : List Char) (start : Nat) : List Token :=
  if text.isEmpty then [] else [⟨kind, text, start⟩]

/-- The tokens of one handled group.  Without a lexer for its text, a group that asks for one is
left to the gap kind. -/
def ofGroup (sub : Option SubLexer) (gap : Kind) (action : GroupAction StateId)
    (text : List Char) (start : Nat) : List Token :=
  match action, sub with
  | .token kind, _ => piece kind text start
  | .using state, some lex => lex state text start
  | .using _, none => piece gap text start
  | .skip, _ => piece gap text start

/-- The part of the match that a group is handled for, if it is handled once the match has been
dealt with up to `done`. -/
def handled? (done : Nat) : GroupAction StateId × Option (Nat × Nat) → Option (Nat × Nat)
  | (.skip, _) => none
  | (_, none) => none
  | (_, some (first, last)) => if done ≤ first ∧ first < last then some (first, last) else none

/-- The tokens of the rest of a match: `left` is what follows the `done` characters dealt with and
begins at the byte offset `start`. -/
def groupTokens (sub : Option SubLexer) (gap : Kind) :
    (done start : Nat) → (left : List Char) →
      List (GroupAction StateId × Option (Nat × Nat)) → List Token
  | _, start, left, [] => piece gap left start
  | done, start, left, group :: groups =>
    match handled? done group with
    | none => groupTokens sub gap done start left groups
    | some (first, last) =>
      let between := left.take (first - done)
      let text := (left.drop (first - done)).take (last - first)
      let textStart := start + byteLength between
      piece gap between start ++ ofGroup sub gap group.1 text textStart ++
        groupTokens sub gap last (textStart + byteLength text) (left.drop (last - done)) groups

/-- Each action with what its group took. -/
def assign (actions : List (GroupAction StateId)) (m : Match) :
    List (GroupAction StateId × Option (Nat × Nat)) :=
  actions.zipIdx.map fun (action, i) => (action, m.span? (i + 1))

/-- The tokens of a match of the text `matched`, which begins at the byte offset `start`. -/
def tokens (sub : Option SubLexer) (action : Action StateId) (m : Match) (matched : List Char)
    (start : Nat) : List Token :=
  match action with
  | .token kind => piece kind matched start
  | .groups actions gap => groupTokens sub gap 0 start matched (assign actions m)

end Emission

end Highlighter
