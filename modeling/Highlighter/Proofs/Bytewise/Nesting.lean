/-
# A group that is lexed on its own

Where a step comes to a group that is lexed on its own (`Machine.Splices`), it starts a lexer for the
text of the group and waits for its tokens; `Splice.resume` is the rest of the step.

* **The rest of the step does not depend on the tokens** (`Machine.Splices.resume_eq`): they are put
  behind those that wait, and whatever they are, the context is the same, and so are the tokens
  before and after them.
* **The tokens are those of the text by itself** (`group_lexed_on_its_own`), each as many bytes
  further on as the group is, if lexing the text by itself nests no deeper than the levels that are
  left at the place of the group.
-/
import Highlighter.Proofs.Bytewise.Frames
import Highlighter.Proofs.Bytewise.Safety
import Highlighter.Proofs.Lexer.Relocation

namespace Highlighter

namespace Bytewise

/-! ## 1. Up to a group -/

variable {t : Table} {m m' : Machine}

/-- Deal with some groups as `emitGroups` does, and go on after them: the result is the machine and
how far the match has been dealt with. -/
def emitSome (t : Table) (gap : Kind) (hit : Hit) (m : Machine) (cursor index : Nat) :
    List (GroupAction StateId) → Run (Machine × Nat)
  | [] => pure (m, cursor)
  | action :: actions =>
    match hit.handled? cursor index action with
    | none => emitSome t gap hit m cursor (index + 1) actions
    | some (start, stop) => do
      let m ← m.emit gap cursor start
      let m ← emitGroup t gap m start stop action
      emitSome t gap hit m stop (index + 1) actions

theorem emitGroups_append (gap : Kind) (hit : Hit) (m : Machine) (cursor index : Nat)
    (before rest : List (GroupAction StateId)) :
    emitGroups t gap hit m cursor index (before ++ rest) =
      emitSome t gap hit m cursor index before >>= fun (m, cursor) =>
        emitGroups t gap hit m cursor (index + before.length) rest := by
  induction before generalizing m cursor index with
  | nil => rfl
  | cons action before ih =>
    have hindex : index + (action :: before).length = index + 1 + before.length := by
      rw [List.length_cons, Nat.add_assoc, Nat.add_comm 1]
    rw [List.cons_append, emitGroups, emitSome, hindex]
    cases hit.handled? cursor index action with
    | none => exact ih m cursor (index + 1)
    | some span =>
      dsimp only
      simp only [bind_assoc, ih]

theorem gives_of_emitSome {gap : Kind} {hit : Hit} {cursor index stop : Nat}
    {actions : List (GroupAction StateId)}
    (h : emitSome t gap hit m cursor index actions = pure (m', stop)) : m.Gives m' := by
  induction actions generalizing m cursor index with
  | nil =>
    obtain ⟨rfl, -⟩ := Prod.mk.inj (Run.pure_inj h)
    exact .refl m
  | cons action actions ih =>
    rw [emitSome] at h
    split at h
    · exact ih h
    · obtain ⟨m₁, h₁, h⟩ := Run.bind_eq_pure_iff.mp h
      obtain ⟨m₂, h₂, h⟩ := Run.bind_eq_pure_iff.mp h
      exact ((gives_of_emit h₁).trans (gives_of_emitGroup h₂)).trans (ih h)

/-! ## 2. The group and what comes after it -/

/-- The place in a step where the text of a group is lexed on its own. -/
structure Splice where
  rule : TableRule
  gap : Kind
  hit : Hit
  /-- The machine with all of the match before the group dealt with. -/
  machine : Machine
  /-- The state that the lexer for the text begins in. -/
  state : StateId
  start : Nat
  stop : Nat
  piece : List Char
  /-- The number of the group after it. -/
  index : Nat
  rest : List (GroupAction StateId)

/-- What is left of the step once the lexer for the text has returned its tokens. -/
def Splice.resume (t : Table) (x : Splice) (nested : List Token) : Run Machine := do
  let m ← emitGroups t x.gap x.hit (x.machine.add nested) x.stop x.index x.rest
  let context ← m.context.applyOptional x.rule.transition
  return { m with context := { context with pos := x.hit.stop } }

/-- The step that the machine is about to take comes to the group: a rule fires, the groups before
are dealt with, and this one is handled. -/
inductive Machine.Splices (t : Table) (m : Machine) : Splice → Prop where
  | intro {id state : StateId} {current : TableState} {rule : TableRule} {hit : Hit} {gap : Kind}
      {before rest : List (GroupAction StateId)} {m₁ m₂ : Machine} {cursor start stop : Nat}
      {piece : List Char} (hid : m.context.current = pure id)
      (hcurrent : stateAt t id = pure current)
      (hfirst : firstHit m.text m.context.pos current.rules = pure (some (rule, hit)))
      (haction : rule.action = .groups (before ++ .using state :: rest) gap)
      (hbefore : emitSome t gap hit m m.context.pos 0 before = pure (m₁, cursor))
      (hhandled : hit.handled? cursor before.length (.using state) = some (start, stop))
      (hgap : m₁.emit gap cursor start = pure m₂)
      (hpiece : slice m.text start stop = pure piece) :
      Splices t m ⟨rule, gap, hit, m₂, state, start, stop, piece, before.length + 1, rest⟩

namespace Machine.Splices

variable {x : Splice} (h : m.Splices t x)

include h

theorem gives : m.Gives x.machine := by
  obtain ⟨-, -, -, -, hbefore, -, hgap, -⟩ := h
  exact (gives_of_emitSome hbefore).trans (gives_of_emit hgap)

/-- **A step that comes to the group is a lexer for its text and the rest of the step.** -/
theorem step_eq (hd : m.depth < maxSubLexDepth) :
    step t m =
      collect t (.start x.state x.piece (m.base + x.start) (m.depth + 1)) >>= x.resume t := by
  obtain ⟨tokens, hmachine⟩ := h.gives
  obtain ⟨hid, hcurrent, hfirst, haction, hbefore, hhandled, hgap, hpiece⟩ := h
  dsimp only at hmachine ⊢
  subst hmachine
  have htext : (m.add tokens).text = m.text := rfl
  have hdepth : ¬ maxSubLexDepth ≤ (m.add tokens).depth := Nat.not_le_of_lt hd
  simp only [step, hid, hcurrent, hfirst, pure_bind, Machine.emitMatch.eq_def, haction, emitGroups_append,
    hbefore]
  rw [emitGroups, Nat.zero_add, hhandled]
  dsimp only
  rw [hgap, pure_bind, emitGroup, subLex, if_neg hdepth, htext, hpiece, pure_bind]
  simp only [bind_assoc, pure_bind]
  rfl

/-- **The rest of the step is the same whatever the tokens are**: the context and the tokens before
and after them do not depend on them. -/
theorem resume_eq {own : List Token} (hown : x.resume t own = pure m') :
    ∃ context tokens, ∀ nested, x.resume t nested =
      pure { m with context, pending := x.machine.pending ++ nested ++ tokens } := by
  obtain ⟨found, hfound⟩ := h.gives
  -- The machine at the group, with nothing waiting, goes on in the same way.
  have hbehind : ∀ nested, x.machine.add nested =
      ({ m with pending := [] } : Machine).behind (x.machine.pending ++ nested) := by
    intro nested
    rw [hfound]
    simp [Machine.add, Machine.behind]
  obtain ⟨m₁, hm₁, hown⟩ := Run.bind_eq_pure_iff.mp hown
  rw [hbehind, emitGroups_behind, map_eq_pure_bind] at hm₁
  obtain ⟨m₂, hm₂, hm₁⟩ := Run.bind_eq_pure_iff.mp hm₁
  obtain rfl := Run.pure_inj hm₁
  obtain ⟨tokens, rfl⟩ := gives_of_emitGroups hm₂
  obtain ⟨y, hy, -⟩ := Run.bind_eq_pure_iff.mp hown
  have hcontext : m.context.applyOptional x.rule.transition = pure y := hy
  refine ⟨{ y with pos := x.hit.stop }, tokens, fun nested => ?_⟩
  rw [Splice.resume, hbehind, emitGroups_behind, hm₂, map_pure, pure_bind]
  dsimp only [Machine.behind, Machine.add]
  rw [hcontext, pure_bind]
  simp

end Machine.Splices

/-! ## 3. The lexer for the text of a group -/

/-- The lexer for the text of the group is one of those that a run has at work. -/
theorem Machine.Splices.opens {x : Splice} (h : m.Splices t x) :
    m.Opens t x.state x.start x.piece := by
  obtain ⟨hid, hcurrent, hfirst, haction, -, hhandled, -, hpiece⟩ := h
  refine ⟨_, _, _, _, _, _, _, _, hid, hcurrent, hfirst, haction, ?_,
    (Hit.handled?_eq_some_iff.mp hhandled).2.1, hpiece⟩
  rw [List.getElem?_append_right (Nat.le_refl _), Nat.sub_self]
  rfl

/-- A match takes something, so it is not at the end of the text. -/
theorem Represents.rest_ne_nil {depth : Nat} {s : Stream} (h : Represents t depth m s)
    {rules : List TableRule} {found : TableRule × Hit}
    (hfirst : firstHit m.text m.context.pos rules = pure (some found)) : s.cursor.rest ≠ [] := by
  obtain ⟨before, htext, hpos, -⟩ := h.context.place
  rw [htext, firstHit_eq hpos] at hfirst
  obtain ⟨⟨r, m'⟩, hmatch, -⟩ := Option.map_eq_some_iff.mp (Run.pure_inj hfirst)
  obtain ⟨hp, hlen⟩ := Option.filter_eq_some_iff.mp (firstMatch?_eq_some hmatch).2
  have hle := Pattern.length_le_of_match? hp
  have hpos := of_decide_eq_true hlen
  exact List.length_pos_iff.mp (Nat.lt_of_lt_of_le hpos hle)

/-- **A group that is lexed on its own is lexed independently.**  The step starts a lexer for the
text of the group and then does the rest.

If lexing the text by itself nests no deeper than the levels that are left, the tokens of that lexer
are those of the text by itself, each moved by the offset of the group in the whole input.  And
whatever tokens the lexer returns, they come behind those that wait, the context after the step is
the same, and so are all tokens that come after them. -/
theorem group_lexed_on_its_own {g : Grammar} (h : g.compile = .ok t) (hm : Reachable t m)
    (hd : m.depth < maxSubLexDepth) {x : Splice} (hx : m.Splices t x) :
    step t m = (collect t (.start x.state x.piece (m.base + x.start) (m.depth + 1)) >>=
      x.resume t) ∧
    (t.NestsWithin (maxSubLexDepth - (m.depth + 1)) x.state x.piece →
      collect t (.start x.state x.piece) = pure (t.tokenizeFrom x.state x.piece) ∧
      collect t (.start x.state x.piece (m.base + x.start) (m.depth + 1)) =
        pure ((t.tokenizeFrom x.state x.piece).map (Token.shift (m.base + x.start)))) ∧
    ∃ context tokens later, ∀ nested,
      x.resume t nested =
        pure { m with context, pending := x.machine.pending ++ nested ++ tokens } ∧
      collect t { m with context, pending := x.machine.pending ++ nested ++ tokens } =
        pure (x.machine.pending ++ nested ++ later) := by
  have ht := Grammar.closed_of_compile h
  have hstate := hx.opens.state_lt ht
  refine ⟨hx.step_eq hd, fun hnests => ⟨?_, ?_⟩, ?_⟩
  · exact collect_eq ht (subLexesTo_subLexer ht (Nat.zero_add _))
      (represents_start hstate x.piece 0)
  · have hshift := t.tokens_shift_of_nestsWithin hnests (Nat.sub_le _ _) (Nat.le_refl _) 0
      (m.base + x.start)
    rw [Nat.zero_add] at hshift
    rw [collect_eq ht (subLexesTo_subLexer ht (Nat.add_sub_cancel' hd))
      (represents_start hstate x.piece (m.base + x.start)), hshift]
    rfl
  · obtain ⟨depth, s, -, -, -, hdepth, hrep, -⟩ := hm.exists_stream ht
    have hsub := subLexesTo_subLexer ht (Nat.add_sub_cancel' hdepth)
    obtain ⟨m', hstep, hrep'⟩ := step_represents ht hsub hrep (by
      obtain ⟨-, -, hfirst⟩ := hx
      exact hrep.rest_ne_nil hfirst)
    rw [hx.step_eq hd] at hstep
    obtain ⟨own, -, hown⟩ := Run.bind_eq_pure_iff.mp hstep
    obtain ⟨context, tokens, hresume⟩ := hx.resume_eq hown
    have hbehind : ∀ nested : List Token,
        ({ m with context, pending := x.machine.pending ++ nested ++ tokens } : Machine) =
          ({ m with context, pending := tokens } : Machine).behind
            (x.machine.pending ++ nested) := fun _ => rfl
    -- The rest of the run ends for the tokens that are there, so it ends for any others.
    have hcollect := collect_eq ht hsub hrep'
    rw [Run.pure_inj (hown.symm.trans (hresume own)), hbehind, collect_behind,
      map_eq_pure_bind] at hcollect
    obtain ⟨later, hlater, -⟩ := Run.bind_eq_pure_iff.mp hcollect
    refine ⟨context, tokens, later, fun nested => ⟨hresume nested, ?_⟩⟩
    rw [hbehind, collect_behind, hlater]
    rfl

/-- A grammar in which a letter takes what follows to be lexed on its own. -/
def quoting : Grammar where
  name := "quoting"
  states := [
    { name := "root"
      entries := [
        .rule { pattern := "q(q*a)", action := .groups [.using "root"] .text },
        .rule { pattern := "a", action := .token .name }] }]

def quotingRule : TableRule where
  source := "q(q*a)"
  pattern := .seq (.char 'q') (.group 1 (.seq (.repeated (.char 'q') 0 none true) (.char 'a')))
  action := .groups [.using 0] .text
  transition := none

def quotingTable : Table :=
  ⟨"quoting", 0, [⟨"root", [quotingRule, ⟨"a", .char 'a', .token .name, none⟩], none⟩]⟩

/-- What is quoted twice is lexed on its own, and in that lexer what is quoted once. -/
theorem nestsWithin_quoting : quotingTable.NestsWithin 1 0 ['q', 'a'] := by
  have hwalk : quotingTable.walk (.start 0 ['q', 'a']) = [.start 0 ['q', 'a']] :=
    Table.walk_eq_singleton (by decide) (by decide +kernel)
  have hwalk' : quotingTable.walk (.start 0 ['a']) = [.start 0 ['a']] :=
    Table.walk_eq_singleton (by decide) (by decide +kernel)
  have hnested : Cursor.nested (.start 0 ['q', 'a'])
      (quotingTable.event (.start 0 ['q', 'a'])) = [(0, ['a'])] := by decide +kernel
  have hnested' : Cursor.nested (.start 0 ['a'])
      (quotingTable.event (.start 0 ['a'])) = [] := by decide +kernel
  intro c hc group hgroup
  rw [hwalk] at hc
  obtain rfl := List.mem_singleton.mp hc
  rw [hnested] at hgroup
  obtain rfl := List.mem_singleton.mp hgroup
  intro c hc
  rw [hwalk'] at hc
  obtain rfl := List.mem_singleton.mp hc
  exact hnested'

theorem group_lexed_on_its_own_quoting :
    quoting.compile = .ok quotingTable ∧ Reachable quotingTable (.start 0 ['q', 'q', 'a']) ∧
      0 < maxSubLexDepth ∧ quotingTable.NestsWithin (maxSubLexDepth - 1) 0 ['q', 'a'] ∧
      (∃ x, (Machine.start 0 ['q', 'q', 'a']).Splices quotingTable x ∧
        x.state = 0 ∧ x.start = 1 ∧ x.piece = ['q', 'a']) ∧
      collect quotingTable (.start 0 ['q', 'a'] 1 1) =
        pure ((quotingTable.tokenizeFrom 0 ['q', 'a']).map (Token.shift 1)) := by
  have hcompile : quoting.compile = .ok quotingTable := by decide +kernel
  have hreach : Reachable quotingTable (.start 0 ['q', 'q', 'a']) := .whole (by decide) .start
  have hdepth : 0 < maxSubLexDepth := by decide
  have hnests : quotingTable.NestsWithin (maxSubLexDepth - 1) 0 ['q', 'a'] :=
    nestsWithin_quoting.mono (by decide)
  have hmatch : firstMatch? (quotingTable.state 0).rules none ['q', 'q', 'a'] =
      some (quotingRule, ⟨3, [⟨1, 1, 3⟩]⟩) := by decide +kernel
  have hfirst : firstHit ([] ++ ['q', 'q', 'a']) 0 (quotingTable.state 0).rules = _ :=
    firstHit_eq rfl _
  rw [List.getLast?_nil, hmatch] at hfirst
  have haction : quotingRule.action = .groups ([] ++ .using 0 :: []) .text := rfl
  have hx : (Machine.start 0 ['q', 'q', 'a']).Splices quotingTable _ :=
    .intro rfl rfl hfirst haction rfl rfl rfl rfl
  obtain ⟨-, hown, -⟩ := group_lexed_on_its_own hcompile hreach hdepth hx
  exact ⟨hcompile, hreach, hdepth, hnests, ⟨_, hx, rfl, rfl, rfl⟩, (hown hnests).2⟩

end Bytewise

end Highlighter
