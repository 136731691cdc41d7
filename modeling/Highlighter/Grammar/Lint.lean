/-
# Findings about a grammar

Rules and states of a grammar that never take effect: a rule with the pattern of an earlier rule, a
word that an earlier word list with the same suffix has already claimed, and a state that lexing
cannot come to.  Findings are advice; a grammar that has some still compiles.
-/
import Highlighter.Grammar.Include
import Highlighter.Grammar.Reachable
import Highlighter.Text.Quoted

namespace Highlighter

/-- What a finding says. -/
inductive FindingKind where
  | unreachableState
  /-- The rule has the same pattern as the rule `earlier`. -/
  | duplicatePattern (earlier : Nat)
  /-- The word has been claimed by the rule `earlier`. -/
  | shadowedWord (word : String) (earlier : Nat)
  deriving DecidableEq

/-- Something in a grammar that never takes effect. -/
structure Finding where
  state : String
  /-- The rule it is about, by its position after includes are written out. -/
  rule : Option Nat
  kind : FindingKind
  deriving DecidableEq

namespace FindingKind

/-- The parts of a finding, named. -/
def parts : FindingKind → String
  | unreachableState => "UnreachableState"
  | duplicatePattern earlier => s!"DuplicatePattern \x7b earlier: {earlier} \x7d"
  | shadowedWord word earlier =>
    let quoted := String.ofList (Quoted.encode word.toList)
    s!"ShadowedWord \x7b word: {quoted}, earlier: {earlier} \x7d"

end FindingKind

namespace Finding

/-- The finding as a sentence. -/
def text (f : Finding) : String :=
  match f.kind, f.rule with
  | .unreachableState, _ => s!"state `{f.state}` is unreachable from the initial state"
  | .duplicatePattern earlier, some rule =>
    s!"{f.state}[{rule}]: pattern duplicates rule {earlier} and never matches"
  | .shadowedWord word earlier, some rule =>
    s!"{f.state}[{rule}]: word `{word}` is already claimed by rule {earlier}"
  | kind, none => s!"{f.state}: {kind.parts}"

end Finding

/-- The elements of a list whose key has occurred before, each with the first element that has the
key.  `seen` holds the first elements found so far. -/
def repeats {α κ : Type} [BEq κ] (key : α → κ) : (seen : List α) → List α → List (α × α)
  | _, [] => []
  | seen, x :: xs =>
    match seen.find? (fun y => key y == key x) with
    | some first => (x, first) :: repeats key seen xs
    | none => repeats key (x :: seen) xs

/-- A word of a word list. -/
structure Claim where
  word : String
  suffix : String
  /-- The rule that lists it. -/
  rule : Nat
  deriving DecidableEq

namespace Grammar

/-- The words that rules list, in order. -/
def claims (rules : List Rule) : List Claim :=
  rules.zipIdx.flatMap fun (rule, index) =>
    match rule.words with
    | none => []
    | some w => w.words.map fun word => ⟨word, w.suffix, index⟩

/-- Rules with the pattern of an earlier rule. -/
def lintPatterns (state : String) (rules : List Rule) : List Finding :=
  (repeats (·.1.pattern) [] rules.zipIdx).map fun (later, first) =>
    ⟨state, some later.2, .duplicatePattern first.2⟩

/-- Words that have been claimed before. -/
def lintWords (state : String) (rules : List Rule) : List Finding :=
  (repeats (fun c => (c.word, c.suffix)) [] (claims rules)).map fun (later, first) =>
    ⟨state, some later.rule, .shadowedWord later.word first.rule⟩

/-- Everything in a grammar that never takes effect. -/
def lint (g : Grammar) : List Finding :=
  (g.states.flatMap fun s =>
    lintPatterns s.name (g.expand s.name) ++ lintWords s.name (g.expand s.name)) ++
  (g.states.filter fun s => !g.reachable.contains s.name).map fun s =>
    ⟨s.name, none, .unreachableState⟩

end Grammar

end Highlighter
