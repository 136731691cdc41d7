/-
# Options in JSON
-/
import Highlighter.Json.Reader
import Highlighter.Json.Writer
import Highlighter.Options.Basic

namespace Highlighter

namespace TextOptions

/-- The members of the written form, in order. -/
def memberNames : List String :=
  ["strip_nl", "strip_all", "ensure_nl", "tab_size", "normalize_newlines"]

/-- Options are written with all their members. -/
def toJson (o : TextOptions) : List Char :=
  Json.writeMembers [
    ("strip_nl".toList, Json.writeBoolean o.stripNewlines),
    ("strip_all".toList, Json.writeBoolean o.stripAll),
    ("ensure_nl".toList, Json.writeBoolean o.ensureNewline),
    ("tab_size".toList, Json.writeNatural o.tabSize),
    ("normalize_newlines".toList, Json.writeBoolean o.normalizeNewlines)]

/-- Options with members still missing. -/
structure Partial where
  stripNewlines : Option Bool := none
  stripAll : Option Bool := none
  ensureNewline : Option Bool := none
  tabSize : Option Nat := none
  normalizeNewlines : Option Bool := none

/-- Reads a member. -/
def member (p : Partial) (name : List Char) : Except JsonError (JsonReader Partial) :=
  if name == "strip_nl".toList then
    Json.once "strip_nl" p.stripNewlines Json.boolean fun b => { p with stripNewlines := some b }
  else if name == "strip_all".toList then
    Json.once "strip_all" p.stripAll Json.boolean fun b => { p with stripAll := some b }
  else if name == "ensure_nl".toList then
    Json.once "ensure_nl" p.ensureNewline Json.boolean fun b => { p with ensureNewline := some b }
  else if name == "tab_size".toList then
    Json.once "tab_size" p.tabSize Json.size fun n => { p with tabSize := some n }
  else if name == "normalize_newlines".toList then
    Json.once "normalize_newlines" p.normalizeNewlines Json.boolean fun b =>
      { p with normalizeNewlines := some b }
  else .error (.data (.unknownField name memberNames))

/-- Missing members have their default values. -/
def Partial.complete (p : Partial) : TextOptions where
  stripNewlines := p.stripNewlines.getD false
  stripAll := p.stripAll.getD false
  ensureNewline := p.ensureNewline.getD false
  tabSize := p.tabSize.getD 0
  normalizeNewlines := p.normalizeNewlines.getD false

/-- Reads options that are given as a map. -/
def mapReader : JsonReader TextOptions := fun cs => do
  let (p, rest) ← Json.members member {} cs
  return (p.complete, rest)

/-- Reads options that are given as a sequence. -/
def sequenceReader : JsonReader TextOptions := fun cs => do
  let (stripNewlines, cs) ← Json.elementOr true Json.boolean false cs
  let (stripAll, cs) ← Json.elementOr false Json.boolean false cs
  let (ensureNewline, cs) ← Json.elementOr false Json.boolean false cs
  let (tabSize, cs) ← Json.elementOr false Json.size 0 cs
  let (normalizeNewlines, cs) ← Json.elementOr false Json.boolean false cs
  return ({ stripNewlines, stripAll, ensureNewline, tabSize, normalizeNewlines }, cs)

/-- Reads options. -/
def reader : JsonReader TextOptions :=
  Json.record "struct LexerOptions" mapReader sequenceReader

end TextOptions

end Highlighter
