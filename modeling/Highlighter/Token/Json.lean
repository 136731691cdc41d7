/-
# Kinds, ranges and tokens in JSON
-/
import Highlighter.Json.Reader
import Highlighter.Json.Writer
import Highlighter.Token.Basic

namespace Highlighter

/-! ## 1. Kinds -/

namespace Kind

/-- A kind is written as its dotted name. -/
def toJson (k : Kind) : List Char := Json.quote k.dotted.toList

/-- The kind with a name. -/
def ofJsonName (given : List Char) : Except JsonError Kind :=
  match ofName? (String.ofList given) with
  | some k => .ok k
  | none => .error (.data (.unknownKind given))

/-- Reads a kind. -/
def reader : JsonReader Kind := fun cs => do
  let (given, rest) ← Json.string cs
  return (← ofJsonName given, rest)

end Kind

/-! ## 2. Ranges -/

namespace Span

/-- A range is written as its two ends. -/
def toJson (s : Span) : List Char :=
  Json.writeMembers [("start".toList, Json.writeNatural s.start),
    ("end".toList, Json.writeNatural s.stop)]

/-- A range with its members still missing. -/
structure Partial where
  start : Option Nat
  stop : Option Nat

/-- Reads a member of a range.  Members with other names are passed over. -/
def member (p : Partial) (name : List Char) : Except JsonError (JsonReader Partial) :=
  if name == "start".toList then
    Json.once "start" p.start Json.size fun n => { p with start := some n }
  else if name == "end".toList then
    Json.once "end" p.stop Json.size fun n => { p with stop := some n }
  else .ok fun cs => (Json.ignore cs).map fun (_, rest) => (p, rest)

/-- Reads a range that is given as a map. -/
def mapReader : JsonReader Span := fun cs => do
  let (p, rest) ← Json.members member ⟨none, none⟩ cs
  match p.start, p.stop with
  | none, _ => throw (.data (.missingField "start"))
  | _, none => throw (.data (.missingField "end"))
  | some start, some stop => return (⟨start, stop⟩, rest)

/-- What a sequence for a range has to be. -/
def sequenceForm : String := "struct Span with 2 elements"

/-- Reads a range that is given as a sequence. -/
def sequenceReader : JsonReader Span := fun cs => do
  let (start, cs) ← Json.elementOf 0 Json.size sequenceForm cs
  let (stop, cs) ← Json.elementOf 1 Json.size sequenceForm cs
  return (⟨start, stop⟩, cs)

/-- Reads a range. -/
def reader : JsonReader Span := Json.record "struct Span" mapReader sequenceReader

end Span

/-! ## 3. Tokens -/

namespace Token

/-- A token is written with its kind, its text and its offset. -/
def toJson (t : Token) : List Char :=
  Json.writeMembers [("kind".toList, t.kind.toJson), ("text".toList, Json.quote t.text),
    ("start".toList, Json.writeNatural t.start)]

end Token

end Highlighter
