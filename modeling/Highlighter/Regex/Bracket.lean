/-
# Bracketed classes

`[…]`: characters, ranges, escapes, named ASCII classes and classes inside classes, joined by plain
juxtaposition (union) or by `&&`, `--` and `~~`, which bind less tightly than juxtaposition and
group to the left.  The reader keeps the classes that are open in a list (`OpenClass`), innermost
first, and handles one item per step.
-/
import Highlighter.Regex.Escape

namespace Highlighter

/-- A value with the nesting depth of the text it was written as. -/
structure Nested (α : Type) where
  value : α
  depth : Nat

/-- An operator between parts of a class. -/
inductive ClassOperator where
  | intersection | difference | symmetricDifference
  deriving DecidableEq

namespace ClassOperator

def apply : ClassOperator → CharSet → CharSet → CharSet
  | intersection, a, b => .inter a b
  | difference, a, b => .diff a b
  | symmetricDifference, a, b => .symmDiff a b

/-- The operator that is written as a character twice. -/
def ofChar? : Char → Option ClassOperator
  | '&' => some intersection
  | '-' => some difference
  | '~' => some symmetricDifference
  | _ => none

end ClassOperator

/-- A class whose closing bracket has not been read yet. -/
structure OpenClass where
  negated : Bool
  /-- The items since the last operator, the latest first. -/
  items : List (Nested CharSet)
  /-- The part before the last operator. -/
  left : Option (Nested CharSet × ClassOperator)

namespace OpenClass

/-- Add an item. -/
def push (k : OpenClass) (item : CharSet) (depth : Nat := 0) : OpenClass :=
  { k with items := ⟨item, depth⟩ :: k.items }

/-- The items since the last operator as one set. -/
def union (k : OpenClass) : Nested CharSet :=
  match k.items with
  | [] => ⟨.empty, 0⟩
  | [item] => item
  | items => ⟨.unions (items.reverse.map (·.value)), (items.map (·.depth)).foldl max 0 + 1⟩

/-- What the class holds so far. -/
def content (flags : PatternFlags) (k : OpenClass) : Nested CharSet :=
  let right := k.union
  match k.left with
  | none => right
  | some (left, op) =>
    ⟨op.apply (left.value.foldUnder flags) (right.value.foldUnder flags),
      max left.depth right.depth + 1⟩

/-- Begin a new part after an operator. -/
def operate (flags : PatternFlags) (op : ClassOperator) (k : OpenClass) : OpenClass :=
  { k with items := [], left := some (k.content flags, op) }

/-- The set of a class at its closing bracket. -/
def close (flags : PatternFlags) (k : OpenClass) : Except PatternError (Nested CharSet) := do
  let content := k.content flags
  let s ← (content.value.foldUnder flags).negateUnder flags k.negated
  return ⟨s, content.depth + 1⟩

end OpenClass

namespace Bracket

/-! ## 1. The opening bracket -/

/-- Hyphens at the beginning of a class stand for themselves. -/
def leadingHyphens (verbose : Bool) :
    (fuel : Nat) → OpenClass → List Char → OpenClass × List Char
  | fuel + 1, k, '-' :: cs =>
    leadingHyphens verbose fuel (k.push (.single '-')) (PatternReader.skip verbose cs)
  | _, k, cs => (k, cs)

/-- What follows an opening bracket: a sign of negation, hyphens, and a closing bracket that stands
for itself if it comes first. -/
def opening (verbose : Bool) (cs : List Char) : OpenClass × List Char :=
  let cs := PatternReader.skip verbose cs
  let (negated, cs) :=
    match cs with
    | '^' :: cs => (true, PatternReader.skip verbose cs)
    | cs => (false, cs)
  let (k, cs) := leadingHyphens verbose cs.length ⟨negated, [], none⟩ cs
  match k.items, cs with
  | [], ']' :: cs => (k.push (.single ']'), PatternReader.skip verbose cs)
  | _, cs => (k, cs)

/-! ## 2. Named ASCII classes -/

/-- The ASCII classes that are written by name. -/
def asciiClass? (name : String) : Option CharSet :=
  if name == "alnum" then some (.unions [.range '0' '9', .range 'A' 'Z', .range 'a' 'z'])
  else if name == "alpha" then some (.unions [.range 'A' 'Z', .range 'a' 'z'])
  else if name == "ascii" then some (.range '\x00' '\x7f')
  else if name == "blank" then some (.unions [.single '\t', .single ' '])
  else if name == "cntrl" then some (.unions [.range '\x00' '\x1f', .single '\x7f'])
  else if name == "digit" then some (.range '0' '9')
  else if name == "graph" then some (.range '!' '~')
  else if name == "lower" then some (.range 'a' 'z')
  else if name == "print" then some (.range ' ' '~')
  else if name == "punct" then
    some (.unions [.range '!' '/', .range ':' '@', .range '[' (Char.ofNat 0x60),
      .range '\x7b' '~'])
  else if name == "space" then some .asciiSpace
  else if name == "upper" then some (.range 'A' 'Z')
  else if name == "word" then some .asciiWord
  else if name == "xdigit" then
    some (.unions [.range '0' '9', .range 'A' 'F', .range 'a' 'f'])
  else none

/-- An ASCII class after an opening bracket, as `:name:]` or `:^name:]`: whether it is negated, the
class, and what follows it. -/
def named? (cs : List Char) : Option (Bool × CharSet × List Char) :=
  match cs with
  | ':' :: cs =>
    let (negated, cs) :=
      match cs with
      | '^' :: cs => (true, cs)
      | cs => (false, cs)
    match cs.dropWhile (· != ':') with
    | ':' :: ']' :: rest =>
      (asciiClass? (String.ofList (cs.takeWhile (· != ':')))).map fun s => (negated, s, rest)
    | _ => none
  | _ => none

/-! ## 3. Items -/

/-- One end of a range or an item on its own. -/
def atom (flags : PatternFlags) : List Char → Except PatternError (Atom × List Char)
  | [] => .error .unclosedClass
  | '\\' :: cs => Escape.read flags cs
  | c :: cs => .ok (.literal c, cs)

/-- A character in a class; without the Unicode tables it has to be ASCII. -/
def literal (flags : PatternFlags) : Atom → Except PatternError Char
  | .literal c => if flags.unicode || CharClass.isAscii c then .ok c else .error .beyondAscii
  | .set _ => .error .invalidRange
  | .assertion _ => .error .invalidRange

/-- The set of an item on its own. -/
def single (flags : PatternFlags) : Atom → Except PatternError CharSet
  | .literal c => return .single (← literal flags (.literal c))
  | .set s => .ok s
  | .assertion _ => .error .notInClass

/-- The character that decides whether a hyphen makes a range: the next one, or, where blanks mean
nothing, the next one after white space and at most one sign of a comment. -/
def afterHyphen (verbose : Bool) (cs : List Char) : Option Char :=
  let rec look (signSeen : Bool) : List Char → Option Char
    | [] => none
    | c :: rest =>
      if CharClass.isSpace c then look signSeen rest
      else if c == '#' && !signSeen then look true rest
      else some c
  if verbose then look false cs <|> cs.head? else cs.head?

/-- An item on its own or a range. -/
def item (flags : PatternFlags) (cs : List Char) : Except PatternError (CharSet × List Char) := do
  let (first, cs) ← atom flags cs
  match PatternReader.skip flags.verbose cs with
  | [] => .error .unclosedClass
  | '-' :: rest =>
    if afterHyphen flags.verbose rest == some ']' || afterHyphen flags.verbose rest == some '-' then
      return (← single flags first, '-' :: rest)
    else
      let (last, rest) ← atom flags (PatternReader.skip flags.verbose rest)
      let first ← literal flags first
      let last ← literal flags last
      if first ≤ last then return (.range first last, rest) else .error .invalidRange
  | rest => return (← single flags first, rest)

/-! ## 4. Whole classes -/

/-- Read the open class `k` and those around it to the last closing bracket, one item a step. -/
def readFrom (flags : PatternFlags) :
    (fuel : Nat) → OpenClass → List OpenClass → List Char →
      Except PatternError (Nested CharSet × List Char)
  | 0, _, _, _ => .error .unclosedClass
  | fuel + 1, k, outer, cs =>
    match PatternReader.skip flags.verbose cs with
    | [] => .error .unclosedClass
    | '[' :: cs =>
      match named? cs with
      | some (negated, s, rest) => do
        let s ← (s.foldUnder flags).negateUnder flags negated
        readFrom flags fuel (k.push s) outer rest
      | none =>
        let (inner, rest) := opening flags.verbose cs
        readFrom flags fuel inner (k :: outer) rest
    | ']' :: rest => do
      let closed ← k.close flags
      match outer with
      | [] => return (closed, rest)
      | k :: outer => readFrom flags fuel (k.push closed.value closed.depth) outer rest
    | c :: d :: rest =>
      match ClassOperator.ofChar? c with
      | some op =>
        if c == d then readFrom flags fuel (k.operate flags op) outer rest
        else do
          let (s, rest) ← item flags (c :: d :: rest)
          readFrom flags fuel (k.push s) outer rest
      | none => do
        let (s, rest) ← item flags (c :: d :: rest)
        readFrom flags fuel (k.push s) outer rest
    | [_] => .error .unclosedClass

/-- Read a class after its opening bracket. -/
def read (flags : PatternFlags) (cs : List Char) :
    Except PatternError (Nested CharSet × List Char) :=
  let (k, rest) := opening flags.verbose cs
  readFrom flags (cs.length + 1) k [] rest

end Bracket

end Highlighter
