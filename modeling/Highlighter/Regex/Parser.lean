/-
# Reading patterns

From the text of a pattern to the pattern.  The reader goes through the text once, one item a step
(`PatternParser.step`), and keeps the alternatives and the sequence that it is in (`Scope`), the
groups around them and the flags in force (`PatternParser`).  Flags last to the end of the group
that they are set in, across its alternatives.

`Pattern.parse` reads a whole text; it also refuses what is nested too deeply.
-/
import Highlighter.Regex.Bracket

namespace Highlighter

/-! ## 1. Where the reader is -/

/-- An item of a sequence. -/
structure Item where
  pattern : Pattern
  depth : Nat
  /-- A list of flags is an item too, but it matches nothing and cannot be repeated. -/
  isDirective : Bool := false

/-- The alternatives read so far at one level, and the sequence being read. -/
structure Scope where
  /-- Complete alternatives, the latest first. -/
  alternatives : List (Nested Pattern)
  /-- Items of the current sequence, the latest first. -/
  items : List Item

namespace Scope

def empty : Scope := ⟨[], []⟩

/-- Add an item to the sequence. -/
def push (s : Scope) (item : Item) : Scope := { s with items := item :: s.items }

/-- The current sequence as a pattern. -/
def sequence (s : Scope) : Nested Pattern :=
  match s.items with
  | [] => ⟨.empty, 0⟩
  | [item] => ⟨item.pattern, item.depth⟩
  | items =>
    ⟨.concat ((items.filter (!·.isDirective)).reverse.map (·.pattern)),
      (items.map (·.depth)).foldl max 0 + 1⟩

/-- Begin the next alternative. -/
def alternate (s : Scope) : Scope := ⟨s.sequence :: s.alternatives, []⟩

/-- The last of several alternatives.  A choice of its own is kept apart from theirs. -/
def apart : Pattern → Pattern
  | .alt p q => .seq (.alt p q) .empty
  | p => p

/-- The whole level as a pattern. -/
def close (s : Scope) : Nested Pattern :=
  match s.alternatives with
  | [] => s.sequence
  | alternatives =>
    ⟨.choice (alternatives.reverse.map (·.value) ++ [apart s.sequence.value]),
      ((s.sequence :: alternatives).map (·.depth)).foldl max 0 + 1⟩

end Scope

/-- A group whose closing parenthesis has not been read yet. -/
structure OpenGroup where
  /-- The level that the group is an item of. -/
  outer : Scope
  /-- The number of the group, if it captures. -/
  index : Option Nat
  /-- The flags to go back to after the group. -/
  flags : PatternFlags

/-- What is known while the text of a pattern is read. -/
structure PatternParser where
  flags : PatternFlags
  scope : Scope
  /-- The groups around the current level, innermost first. -/
  enclosing : List OpenGroup
  /-- How many capturing groups have been opened. -/
  groups : Nat
  names : List (List Char)

namespace PatternParser

/-- The deepest nesting of a pattern that is accepted. -/
def maxDepth : Nat := 250

def start (flags : PatternFlags) : PatternParser := ⟨flags, .empty, [], 0, []⟩

/-- Add an item to the current sequence. -/
def push (st : PatternParser) (pattern : Pattern) (depth : Nat) : PatternParser :=
  { st with scope := st.scope.push ⟨pattern, depth, false⟩ }

/-! ## 2. Single items -/

/-- A set closed under case as the flags ask, as a pattern. -/
def setPattern (flags : PatternFlags) (s : CharSet) : Pattern := .set (s.foldUnder flags)

/-- What `.` stands for. -/
def dot (flags : PatternFlags) : Except PatternError Pattern :=
  if !flags.unicode then .error .beyondAscii
  else if flags.dotAll then .ok (.set .all)
  else if flags.crlf then .ok (.set (.compl (.union (.single '\n') (.single '\r'))))
  else .ok (.set (.compl (.single '\n')))

/-- What `^` stands for. -/
def caret (flags : PatternFlags) : Assertion :=
  if flags.multiLine then if flags.crlf then .crlfLineStart else .lineStart else .textStart

/-- What `$` stands for. -/
def dollar (flags : PatternFlags) : Assertion :=
  if flags.multiLine then if flags.crlf then .crlfLineEnd else .lineEnd else .textEnd

/-- The pattern of an escape. -/
def atomPattern (flags : PatternFlags) : Atom → Pattern
  | .literal c => setPattern flags (.single c)
  | .set s => .set s
  | .assertion a => .look a

/-! ## 3. Groups -/

/-- The name of a group: a letter or underscore first, then also digits, dots and brackets. -/
def isGroupName : List Char → Bool
  | [] => false
  | c :: cs =>
    (c == '_' || CharClass.isAlphabetic c) &&
      cs.all fun c =>
        c == '_' || c == '.' || c == '[' || c == ']' || CharClass.isAlphanumeric c

/-- The items of a flag list up to the character that ends it, and what follows from there on. -/
def flagItems : List Char → Except PatternError (List FlagItem × List Char)
  | [] => .error .unclosedGroup
  | ':' :: cs => .ok ([], ':' :: cs)
  | ')' :: cs => .ok ([], ')' :: cs)
  | c :: cs => do
    let item ←
      if c == '-' then .ok FlagItem.negation
      else match PatternFlag.ofChar? c with
        | some flag => .ok (.flag flag)
        | none => .error .invalidFlags
    let (items, rest) ← flagItems cs
    if items.contains item then .error .invalidFlags else .ok (item :: items, rest)

/-- Open a group. -/
def openGroup (st : PatternParser) (index : Option Nat) (flags : PatternFlags) : PatternParser :=
  { st with
    flags
    scope := .empty
    enclosing := ⟨st.scope, index, st.flags⟩ :: st.enclosing }

/-- Open a capturing group. -/
def openCapture (st : PatternParser) : PatternParser :=
  let st := { st with groups := st.groups + 1 }
  st.openGroup (some st.groups) st.flags

/-- Open a group with a name, which follows with its closing angle. -/
def openNamed (st : PatternParser) (cs : List Char) :
    Except PatternError (PatternParser × List Char) :=
  match cs.dropWhile (· != '>') with
  | [] => .error .invalidGroupName
  | _ :: rest =>
    let name := cs.takeWhile (· != '>')
    if !isGroupName name then .error .invalidGroupName
    else if st.names.contains name then .error .repeatedGroupName
    else .ok ({ st with names := name :: st.names }.openCapture, rest)

/-- What follows an opening parenthesis. -/
def enterGroup (st : PatternParser) (cs : List Char) :
    Except PatternError (PatternParser × List Char) :=
  match PatternReader.skip st.flags.verbose cs with
  | '?' :: '=' :: _ | '?' :: '!' :: _ | '?' :: '<' :: '=' :: _ | '?' :: '<' :: '!' :: _ =>
    .error .lookAround
  | '?' :: 'P' :: '<' :: cs => st.openNamed cs
  | '?' :: '<' :: cs => st.openNamed cs
  | '?' :: cs => do
    let (items, rest) ← flagItems cs
    if items.getLast? == some .negation then .error .invalidFlags
    else
      let flags := FlagItem.apply st.flags true items
      match items, rest with
      | [], ')' :: _ => .error .nothingToRepeat
      | _, ')' :: rest =>
        .ok ({ st with flags, scope := st.scope.push ⟨.empty, 0, true⟩ }, rest)
      | _, _ :: rest => .ok (st.openGroup none flags, rest)
      | _, [] => .error .unclosedGroup
  | cs => .ok (st.openCapture, cs)

/-- Close the innermost group. -/
def leaveGroup (st : PatternParser) : Except PatternError PatternParser :=
  match st.enclosing with
  | [] => .error .unopenedGroup
  | group :: enclosing =>
    let inner := st.scope.close
    let pattern :=
      match group.index with
      | some index => .group index inner.value
      | none => inner.value
    .ok { st with
      flags := group.flags
      scope := group.outer.push ⟨pattern, inner.depth + 1, false⟩
      enclosing }

/-! ## 4. Repetitions -/

/-- Repeat the last item of the sequence.  `rest` decides whether the repetition is lazy. -/
def repeatLast (st : PatternParser) (min : Nat) (max : Option Nat) (rest : List Char) :
    Except PatternError (PatternParser × List Char) :=
  match st.scope.items with
  | [] => .error .nothingToRepeat
  | item :: items =>
    if item.isDirective then .error .nothingToRepeat
    else
      let (lazy, rest) :=
        match rest with
        | '?' :: rest => (true, rest)
        | rest => (false, rest)
      let greedy := lazy == st.flags.swapGreed
      let repeated : Item := ⟨.repeated item.pattern min max greedy, item.depth + 1, false⟩
      .ok ({ st with scope := { st.scope with items := repeated :: items } }, rest)

/-! ## 5. The whole text -/

/-- Read the item that begins with `c`. -/
def step (st : PatternParser) (c : Char) (rest : List Char) :
    Except PatternError (PatternParser × List Char) :=
  match c with
  | '(' => st.enterGroup rest
  | ')' => do return (← st.leaveGroup, rest)
  | '|' => .ok ({ st with scope := st.scope.alternate }, rest)
  | '[' => do
    let (s, rest) ← Bracket.read st.flags rest
    return (st.push (.set s.value) s.depth, rest)
  | '?' => st.repeatLast 0 (some 1) rest
  | '*' => st.repeatLast 0 none rest
  | '+' => st.repeatLast 1 none rest
  | '\x7b' =>
    -- An item has to be there even if the bounds are wrong; either way the pattern is refused.
    match PatternReader.bounds st.flags.verbose rest with
    | .error e => .error e
    | .ok ((min, max), rest) =>
      st.repeatLast min max (PatternReader.skip st.flags.verbose rest)
  | '\\' => do
    let (atom, rest) ← Escape.read st.flags rest
    return (st.push (atomPattern st.flags atom) 0, rest)
  | '.' => do return (st.push (← dot st.flags) 0, rest)
  | '^' => .ok (st.push (.look (caret st.flags)) 0, rest)
  | '$' => .ok (st.push (.look (dollar st.flags)) 0, rest)
  | c => .ok (st.push (setPattern st.flags (.single c)) 0, rest)

/-- Close the whole pattern. -/
def finish (st : PatternParser) : Except PatternError Pattern :=
  match st.enclosing with
  | _ :: _ => .error .unclosedGroup
  | [] =>
    let whole := st.scope.close
    if whole.depth ≤ maxDepth then .ok whole.value else .error .tooDeep

/-- Read the rest of the text.  Each step consumes a character, so the number of characters is
enough `fuel`. -/
def run : (fuel : Nat) → PatternParser → List Char → Except PatternError Pattern
  | 0, st, _ => st.finish
  | fuel + 1, st, cs =>
    match PatternReader.skip st.flags.verbose cs with
    | [] => st.finish
    | c :: rest => do
      let (st, rest) ← st.step c rest
      run fuel st rest

end PatternParser

/-- Read a pattern under some flags. -/
def Pattern.parse (flags : PatternFlags) (text : String) : Except PatternError Pattern :=
  let cs := text.toList
  PatternParser.run cs.length (.start flags) cs

end Highlighter
