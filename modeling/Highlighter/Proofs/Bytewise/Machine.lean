/-
# Lexing by byte offsets

The same lexer once more, as it works on a text that is addressed by byte offsets, with a stack that
is a list and with tables whose states are looked up by position.  Nothing is promised here.  A
look-up fails where there is nothing, a slice where its bounds do not lie between characters of the
text, and a token cannot be made from an empty text (`Fault`).  The loops go on for as long as they
like: they are fixpoints in `Run`, in which a computation that never ends has no result, and no
measure stands behind them.

That none of this ever happens for a compiled table, and that the tokens are those of
`Table.tokenizeFrom`, is proved from `Represents` in the modules that import this one.
-/
import Highlighter.Lexer.Stream

namespace Highlighter

namespace Bytewise

/-! ## 1. Computations -/

/-- What a computation may stop with. -/
inductive Fault where
  /-- A table has no state at the position. -/
  | noState (id : StateId)
  | emptyStack
  /-- The bounds are out of order, outside of the text or inside of a character. -/
  | badSlice (start stop : Nat)
  | emptyToken
  deriving DecidableEq

/-- A computation that may stop with a fault.  One that never ends is `none`. -/
abbrev Run (α : Type) := ExceptT Fault Option α

theorem Run.pure_inj {α : Type} {a b : α} (h : (pure a : Run α) = pure b) : a = b :=
  Except.ok.inj (Option.some.inj h)

/-! ## 2. Texts -/

/-- The characters before a byte offset and those from it on, if it lies between characters. -/
def split? : List Char → (pos : Nat) → Option (List Char × List Char)
  | text, 0 => some ([], text)
  | [], _ + 1 => none
  | c :: text, pos + 1 =>
    if pos + 1 < c.utf8Size then none
    else (split? text (pos + 1 - c.utf8Size)).map fun (before, rest) => (c :: before, rest)

/-- The text between two byte offsets. -/
def slice (text : List Char) (start stop : Nat) : Run (List Char) :=
  if stop < start then throw (.badSlice start stop)
  else
    match split? text start with
    | none => throw (.badSlice start stop)
    | some (_, rest) =>
      match split? rest (stop - start) with
      | none => throw (.badSlice start stop)
      | some (piece, _) => pure piece

/-- A token, which has to have a text. -/
def makeToken (kind : Kind) (text : List Char) (start : Nat) : Run Token :=
  if text = [] then throw .emptyToken else pure ⟨kind, text, start⟩

/-! ## 3. Cursor and stack -/

/-- Where a lexer is in its text. -/
structure Context where
  /-- The byte offset in the text. -/
  pos : Nat
  /-- The states, the bottom one first. -/
  stack : List StateId
  /-- Where a fallback that does not shrink the stack was applied last. -/
  fallbackAt : Option Nat

namespace Context

/-- At the beginning of a text, in a state. -/
def start (state : StateId) : Context := ⟨0, [state], none⟩

def current (c : Context) : Run StateId :=
  match c.stack.getLast? with
  | some id => pure id
  | none => throw .emptyStack

/-- Carry a transition out. -/
def apply (c : Context) : Transition StateId → Run Context
  | .push states => pure { c with stack := c.stack ++ states }
  | .pushCurrent => do return { c with stack := c.stack ++ [← c.current] }
  | .pop count => pure { c with stack := c.stack.take (max (c.stack.length - count) 1) }
  | .replace state =>
    if c.stack = [] then throw .emptyStack
    else pure { c with stack := c.stack.dropLast ++ [state] }

/-- Carry a transition out, if there is one. -/
def applyOptional (c : Context) : Option (Transition StateId) → Run Context
  | none => pure c
  | some transition => c.apply transition

end Context

/-! ## 4. Matches -/

/-- A match with its bounds in bytes. -/
structure Hit where
  stop : Nat
  /-- The bounds of what a group took, if it took part. -/
  spans : Nat → Option (Nat × Nat)

/-- A match that begins at a byte offset with the text `rest` ahead. -/
def Hit.ofMatch (pos : Nat) (rest : List Char) (m : Match) : Hit :=
  let offset (count : Nat) : Nat := pos + byteLength (rest.take count)
  ⟨offset m.length, fun group =>
    (m.span? group).map fun (first, last) => (offset first, offset last)⟩

/-- The bounds for which a group is handled, if it is, once the match has been dealt with up to
`cursor`. -/
def Hit.handled? (hit : Hit) (cursor index : Nat) : GroupAction StateId → Option (Nat × Nat)
  | .skip => none
  | _ =>
    match hit.spans (index + 1) with
    | none => none
    | some (start, stop) => if stop ≤ start ∨ start < cursor then none else some (start, stop)

/-- The match of a rule that begins at a byte offset; an empty one does not count. -/
def matchAt (text : List Char) (pos : Nat) (r : TableRule) : Run (Option Hit) :=
  match split? text pos with
  | none => throw (.badSlice pos (byteLength text))
  | some (before, rest) =>
    let hit? := (r.pattern.match? before.getLast? rest).map (Hit.ofMatch pos rest)
    pure (hit?.filter (pos < ·.stop))

/-- The first rule that matches. -/
def firstHit (text : List Char) (pos : Nat) : List TableRule → Run (Option (TableRule × Hit))
  | [] => pure none
  | r :: rules => do
    match ← matchAt text pos r with
    | some hit => return some (r, hit)
    | none => firstHit text pos rules

/-! ## 5. The lexer -/

/-- A lexer at work on a text. -/
structure Machine where
  text : List Char
  /-- The byte offset of the text in the whole input. -/
  base : Nat
  /-- How many lexers are at work around this one. -/
  depth : Nat
  context : Context
  /-- Tokens that have been found but not yet returned. -/
  pending : List Token

namespace Machine

/-- At the beginning of a text. -/
def start (state : StateId) (text : List Char) (base : Nat := 0) (depth : Nat := 0) : Machine :=
  ⟨text, base, depth, .start state, []⟩

/-- Put tokens behind those that wait. -/
def add (m : Machine) (tokens : List Token) : Machine :=
  { m with pending := m.pending ++ tokens }

theorem add_nil (m : Machine) : m.add [] = m := by
  simp [add]

theorem add_add (m : Machine) (a b : List Token) : (m.add a).add b = m.add (a ++ b) := by
  simp [add]

/-- Add the text between two byte offsets as a token, unless it is empty. -/
def emit (m : Machine) (kind : Kind) (start stop : Nat) : Run Machine :=
  if start < stop then do
    let piece ← slice m.text start stop
    let token ← makeToken kind piece (m.base + start)
    return m.add [token]
  else pure m

/-- The character at the cursor becomes an error token. -/
def emitError (m : Machine) : Run Machine := do
  let pos := m.context.pos
  let rest ← slice m.text pos (byteLength m.text)
  let width := (rest.head?.map Char.utf8Size).getD 1
  let m ← m.emit .error pos (pos + width)
  return { m with context := { m.context with pos := pos + width } }

end Machine

/-- The state at a position. -/
def stateAt (t : Table) (id : StateId) : Run TableState :=
  match t.states[id]? with
  | some state => pure state
  | none => throw (.noState id)

/-- The names of the states on the stack. -/
def Machine.stateNames (t : Table) (m : Machine) : Run (List String) :=
  m.context.stack.mapM fun id => return (← stateAt t id).name

/-- Whether a fallback takes states from a stack. -/
def shrinks (stack : List StateId) : Transition StateId → Bool
  | .pop _ => 1 < stack.length
  | _ => false

/-- What is done where no rule matches. -/
def Machine.fallBack (m : Machine) : Option (Transition StateId) → Run Machine
  | none => m.emitError
  | some f =>
    let pos := m.context.pos
    if shrinks m.context.stack f then
      return { m with context := ← m.context.apply f }
    else if m.context.fallbackAt ≠ some pos then
      return { m with context := ← ({ m.context with fallbackAt := some pos }).apply f }
    else m.emitError

namespace Machine

mutual

/-- The tokens for the groups from the one with the number `index + 1` on, and for what is left of
the match after them. -/
def emitGroups (t : Table) (gap : Kind) (hit : Hit) (m : Machine) (cursor index : Nat) :
    List (GroupAction StateId) → Run Machine
  | [] => m.emit gap cursor hit.stop
  | action :: actions =>
    match hit.handled? cursor index action with
    | none => m |>.emitGroups t gap hit cursor (index + 1) actions
    | some (start, stop) => do
      let m ← m.emit gap cursor start
      let m ← m |>.emitGroup t gap start stop action
      m |>.emitGroups t gap hit stop (index + 1) actions
partial_fixpoint

/-- The tokens of a handled group. -/
def emitGroup (t : Table) (gap : Kind) (m : Machine) (start stop : Nat) :
    GroupAction StateId → Run Machine
  | .token kind => m.emit kind start stop
  | .using state => m |>.subLex t gap state start stop
  | .skip => pure m
partial_fixpoint

/-- The tokens for a group whose text is lexed on its own. -/
def subLex (t : Table) (gap : Kind) (m : Machine) (state : StateId) (start stop : Nat) :
    Run Machine :=
  if maxSubLexDepth ≤ m.depth then m.emit gap start stop
  else do
    let piece ← slice m.text start stop
    let tokens ← Machine.start state piece (m.base + start) (m.depth + 1) |>.collect t
    return m.add tokens
partial_fixpoint

/-- The tokens of a match that begins at a byte offset. -/
def emitMatch (t : Table) (hit : Hit) (m : Machine) (pos : Nat) : Action StateId → Run Machine
  | .token kind => m.emit kind pos hit.stop
  | .groups actions gap => m |>.emitGroups t gap hit pos 0 actions
partial_fixpoint

/-- One step. -/
def step (t : Table) (m : Machine) : Run Machine := do
  let pos := m.context.pos
  let state ← stateAt t (← m.context.current)
  match ← firstHit m.text pos state.rules with
  | none => m.fallBack state.fallback
  | some (r, hit) =>
    let m ← m |>.emitMatch t hit pos r.action
    let context ← m.context.applyOptional r.transition
    return { m with context := { context with pos := hit.stop } }
partial_fixpoint

/-- One call: the next token, if there is one. -/
def next (t : Table) (m : Machine) : Run (Option Token × Machine) :=
  match m.pending with
  | token :: pending => return (some token, { m with pending })
  | [] =>
    if byteLength m.text ≤ m.context.pos then return (none, m)
    else do
      let m ← m |>.step t
      m |>.next t
partial_fixpoint

/-- All tokens that are left. -/
def collect (t : Table) (m : Machine) : Run (List Token) := do
  match ← m |>.next t with
  | (none, _) => return []
  | (some token, m) =>
    let tokens ← m |>.collect t
    return token :: tokens
partial_fixpoint

end

end Machine

export Machine (emitGroups emitGroup subLex emitMatch step next collect)

/-! ## 6. What may happen -/

/-- A machine gets from one moment to another with so many steps, returning these tokens on the
way.  This is what the loop of a call does, taken apart. -/
inductive Reaches (t : Table) (mc : Machine) : (steps : Nat) → List Token → Machine → Prop where
  | start : Reaches t mc 0 [] mc
  /-- A step is taken if no token waits and the text is not at its end. -/
  | step {n : Nat} {returned : List Token} {m m' : Machine} (h : Reaches t mc n returned m)
      (hp : m.pending = []) (hr : m.context.pos < byteLength m.text)
      (hm : Bytewise.step t m = pure m') : Reaches t mc (n + 1) returned m'
  | give {n : Nat} {returned pending : List Token} {m : Machine} {token : Token}
      (h : Reaches t mc n returned m) (hp : m.pending = token :: pending) :
      Reaches t mc n (returned ++ [token]) { m with pending }

theorem Reaches.trans {t : Table} {a b c : Machine} {i j : Nat} {r r' : List Token}
    (h : Reaches t a i r b) (h' : Reaches t b j r' c) : Reaches t a (i + j) (r ++ r') c := by
  induction h' with
  | start => simpa using h
  | step _ hp hr hm ih => exact .step ih hp hr hm
  | give _ hp ih =>
    rw [← List.append_assoc]
    exact .give ih hp

/-- The step that a machine is about to take lexes a text on its own: its rule hands what a group
took, `piece` from the byte offset `start` on, to a lexer that begins in a state. -/
def Machine.Opens (t : Table) (m : Machine) (state : StateId) (start : Nat) (piece : List Char) :
    Prop :=
  ∃ id current r hit actions gap index stop,
    m.context.current = pure id ∧ stateAt t id = pure current ∧
    firstHit m.text m.context.pos current.rules = pure (some (r, hit)) ∧
    r.action = .groups actions gap ∧ actions[index]? = some (.using state) ∧
    hit.spans (index + 1) = some (start, stop) ∧ slice m.text start stop = pure piece

/-- A machine at some moment: one that lexes a whole input, or one that lexes the text of a group
while another machine takes a step. -/
inductive Reachable (t : Table) : Machine → Prop where
  | whole {state : StateId} {text : List Char} {n : Nat} {returned : List Token} {m : Machine}
      (hs : state < t.states.length) (hm : Reaches t (.start state text) n returned m) :
      Reachable t m
  | group {outer : Machine} {state : StateId} {start : Nat} {piece : List Char} {n : Nat}
      {returned : List Token} {m : Machine} (ho : Reachable t outer)
      (hd : outer.depth < maxSubLexDepth) (hg : outer.Opens t state start piece)
      (hm : Reaches t (.start state piece (outer.base + start) (outer.depth + 1)) n returned m) :
      Reachable t m

end Bytewise

end Highlighter
