/-
# Actions do not steer lexing

Where a lexer goes depends on patterns, transitions and fallbacks, and not on what rules make of the
texts that they match.

* The context moves on in the table without actions as it does in the table
  (`advance_forgetActions`).
* A run in one table is followed by a run in any table that differs in its actions only
  (`Reaches.follow`), as contexts move on by themselves and no step fails.
* **So two grammars that differ in their actions only take the same steps through any text**
  (`same_moves_of_forgetActions`).
-/
import Highlighter.Proofs.Bytewise.Frames
import Highlighter.Proofs.Bytewise.Safety
import Highlighter.Proofs.Grammar.Actions

namespace Highlighter

namespace Bytewise

/-! ## 1. Moving on without actions -/

theorem stateAt_forgetActions (t : Table) (id : StateId) :
    stateAt t.forgetActions id = TableState.forgetActions <$> stateAt t id := by
  unfold stateAt
  rw [Table.forgetActions, List.getElem?_map]
  cases t.states[id]? <;> rfl

theorem firstHit_forgetAction (text : List Char) (pos : Nat) (rules : List TableRule) :
    firstHit text pos (rules.map TableRule.forgetAction) =
      Option.map (fun (r, hit) => (r.forgetAction, hit)) <$> firstHit text pos rules := by
  induction rules with
  | nil => rfl
  | cons r rules ih =>
    have hmatch : matchAt text pos r.forgetAction = matchAt text pos r := rfl
    rw [List.map_cons, firstHit, firstHit, hmatch, map_bind]
    refine bind_congr fun hit? => ?_
    cases hit? with
    | none => exact ih
    | some hit => rfl

/-- **Where a step leads to is the same without actions.** -/
theorem advance_forgetActions (t : Table) (text : List Char) (x : Context) :
    x.advance t.forgetActions text = x.advance t text := by
  unfold Context.advance
  refine bind_congr fun id => ?_
  rw [stateAt_forgetActions, bind_map_left]
  refine bind_congr fun state => ?_
  rw [TableState.forgetActions, firstHit_forgetAction, bind_map_left]
  refine bind_congr fun hit? => ?_
  cases hit? <;> rfl

/-! ## 2. Runs that go together -/

section

variable {t : Table} {mc m : Machine} {n : Nat} {returned : List Token}

theorem Reaches.text_eq (h : Reaches t mc n returned m) : m.text = mc.text := by
  induction h with
  | start => rfl
  | step _ _ _ hm ih =>
    obtain ⟨x, tokens, -, rfl⟩ := exists_of_step hm
    exact ih
  | give _ _ ih => exact ih

/-- All tokens that wait can be returned before the next step. -/
theorem Reaches.drain (h : Reaches t mc n returned m) :
    Reaches t mc n (returned ++ m.pending) { m with pending := [] } := by
  obtain ⟨text, base, depth, context, pending⟩ := m
  dsimp only
  induction pending generalizing returned with
  | nil => simpa using h
  | cons token pending ih =>
    have := ih (h.give rfl)
    rwa [List.append_assoc, List.singleton_append] at this

/-- **The next step never fails** in a table whose references lead to states of it. -/
theorem Reaches.exists_step (ht : t.Closed) {state : StateId} (hs : state < t.states.length)
    {text : List Char} {base depth : Nat} (hd : depth ≤ maxSubLexDepth)
    (h : Reaches t (.start state text base depth) n returned m)
    (hr : m.context.pos < byteLength m.text) : ∃ m', Bytewise.step t m = pure m' := by
  obtain ⟨s, hrep, -⟩ := Bytewise.exists_stream ht hs hd h
  have hrest : s.cursor.rest ≠ [] := fun h0 => Nat.not_le_of_lt hr (hrep.end_iff.mpr h0)
  obtain ⟨m', hm', -⟩ :=
    step_represents ht (subLexesTo_subLexer ht (Nat.add_sub_cancel' hd)) hrep hrest
  exact ⟨m', hm'⟩

/-- A run goes on to where its context leads, with all tokens returned. -/
theorem Reaches.exists_advance (ht : t.Closed) {state : StateId} (hs : state < t.states.length)
    {text : List Char} {base depth : Nat} (hd : depth ≤ maxSubLexDepth)
    (h : Reaches t (.start state text base depth) n returned m)
    (hr : m.context.pos < byteLength m.text) {x : Context}
    (hx : m.context.advance t m.text = pure x) :
    ∃ returned', Reaches t (.start state text base depth) (n + 1) returned'
      { m with context := x, pending := [] } := by
  obtain ⟨m', hm'⟩ := h.drain.exists_step ht hs hd hr
  obtain ⟨x', tokens, hx', rfl⟩ := exists_of_step hm'
  obtain rfl := Run.pure_inj (hx.symm.trans hx')
  exact ⟨_, (h.drain.step rfl hr hm').drain⟩

/-- Steps from the same context lead to the same context. -/
theorem context_eq_of_step {t' : Table} (hsame : t.forgetActions = t'.forgetActions)
    {a a' b b' : Machine} (htext : a.text = b.text) (hcontext : a.context = b.context)
    (ha : step t a = pure a') (hb : step t' b = pure b') : a'.context = b'.context := by
  obtain ⟨x, _, hx, rfl⟩ := exists_of_step ha
  obtain ⟨y, _, hy, rfl⟩ := exists_of_step hb
  rw [← advance_forgetActions, hsame, advance_forgetActions, htext, hcontext] at hx
  exact Run.pure_inj (hx.symm.trans hy)

/-- **Every moment of a run has one in the other run** with the same context. -/
theorem Reaches.follow {t' : Table} (hsame : t.forgetActions = t'.forgetActions)
    (ht' : t'.Closed) {state : StateId} (hs : state < t'.states.length) {text : List Char}
    {base depth : Nat} (hd : depth ≤ maxSubLexDepth)
    (h : Reaches t (.start state text base depth) n returned m) :
    ∃ returned' m', Reaches t' (.start state text base depth) n returned' m' ∧
      m'.pending = [] ∧ m'.context = m.context := by
  induction h with
  | start => exact ⟨[], _, .start, rfl, rfl⟩
  | @step _ _ m₁ m₂ h₁ _ hr hm ih =>
    obtain ⟨returned', m', h', hp', hcontext⟩ := ih
    have htext : m'.text = m₁.text := h'.text_eq.trans h₁.text_eq.symm
    have hr' : m'.context.pos < byteLength m'.text := by rwa [hcontext, htext]
    obtain ⟨m'', hm''⟩ := h'.exists_step ht' hs hd hr'
    have hcontext' := context_eq_of_step hsame.symm htext hcontext hm'' hm
    exact ⟨_, _, (h'.step hp' hr' hm'').drain, rfl, hcontext'⟩
  | give _ _ ih => exact ih

end

/-! ## 3. The steps through a text -/

/-- The step with this number, counted from zero, takes the machine from one context to another.  It
consumes what lies between their positions. -/
inductive Moves (t : Table) (mc : Machine) (n : Nat) : Context → Context → Prop where
  | intro {returned : List Token} {m m' : Machine} (h : Reaches t mc n returned m)
      (hp : m.pending = []) (hr : m.context.pos < byteLength m.text)
      (hm : step t m = pure m') : Moves t mc n m.context m'.context

/-- **Until the text is at its end there is a next step.** -/
theorem Reaches.exists_moves {t : Table} (ht : t.Closed) {state : StateId}
    (hs : state < t.states.length) {text : List Char} {base depth : Nat}
    (hd : depth ≤ maxSubLexDepth) {n : Nat} {returned : List Token} {m : Machine}
    (h : Reaches t (.start state text base depth) n returned m)
    (hr : m.context.pos < byteLength text) :
    ∃ y, Moves t (.start state text base depth) n m.context y := by
  have hr' : m.context.pos < byteLength m.text := h.text_eq ▸ hr
  obtain ⟨m', hm'⟩ := h.drain.exists_step ht hs hd hr'
  exact ⟨m'.context, .intro (m := { m with pending := [] }) h.drain rfl hr' hm'⟩

theorem Reaches.context_eq_start {t : Table} {mc m : Machine} {returned : List Token}
    (h : Reaches t mc 0 returned m) : m.context = mc.context := by
  generalize hn : 0 = n at h
  induction h with
  | start => rfl
  | step => cases hn
  | give _ _ ih => exact ih hn

/-- A machine that has taken steps has taken a last one. -/
theorem Reaches.exists_last {t : Table} {mc m : Machine} {n : Nat} {returned : List Token}
    (h : Reaches t mc (n + 1) returned m) :
    ∃ returned' m₁ m₂, Reaches t mc n returned' m₁ ∧ Bytewise.step t m₁ = pure m₂ ∧
      m₂.context = m.context := by
  generalize hn : n + 1 = n' at h
  induction h with
  | start => cases hn
  | step h _ _ hm =>
    obtain rfl := Nat.succ.inj hn
    exact ⟨_, _, _, h, hm, rfl⟩
  | give _ _ ih => exact ih hn

section

variable {t t' : Table} (hsame : t.forgetActions = t'.forgetActions)

include hsame

/-- After the same number of steps the contexts are the same. -/
theorem context_eq_of_reaches {mc m m' : Machine} {n : Nat} {returned returned' : List Token}
    (h : Reaches t mc n returned m) (h' : Reaches t' mc n returned' m') :
    m.context = m'.context := by
  induction n generalizing m m' returned returned' with
  | zero => exact h.context_eq_start.trans h'.context_eq_start.symm
  | succ n ih =>
    obtain ⟨_, a, a', ha, hstep, hcontext⟩ := h.exists_last
    obtain ⟨_, b, b', hb, hstep', hcontext'⟩ := h'.exists_last
    rw [← hcontext, ← hcontext']
    exact context_eq_of_step hsame (ha.text_eq.trans hb.text_eq.symm) (ih ha hb) hstep hstep'

theorem Moves.unique {mc : Machine} {n : Nat} {x y x' y' : Context} (h : Moves t mc n x y)
    (h' : Moves t' mc n x' y') : x = x' ∧ y = y' := by
  obtain ⟨ha, hpa, hra, hma⟩ := h
  obtain ⟨hb, hpb, hrb, hmb⟩ := h'
  exact ⟨context_eq_of_reaches hsame ha hb,
    context_eq_of_reaches hsame (ha.step hpa hra hma) (hb.step hpb hrb hmb)⟩

theorem Moves.follow (ht' : t'.Closed) {state : StateId} (hs : state < t'.states.length)
    {text : List Char} {base depth : Nat} (hd : depth ≤ maxSubLexDepth) {n : Nat} {x y : Context}
    (h : Moves t (.start state text base depth) n x y) :
    Moves t' (.start state text base depth) n x y := by
  obtain @⟨returned, m, m', hreach, hp, hr, hm⟩ := h
  obtain ⟨returned', m₁, h', -, hcontext⟩ := hreach.follow hsame ht' hs hd
  have htext : m.text = text := hreach.text_eq
  have hr' : m₁.context.pos < byteLength text := by rwa [hcontext, ← htext]
  obtain ⟨y', hmove⟩ := h'.exists_moves ht' hs hd hr'
  obtain ⟨hx, hy⟩ := Moves.unique hsame (.intro hreach hp hr hm) hmove
  rwa [hx, hy]

end

/-- **Actions do not steer lexing.**  If two grammars compile and differ in the actions of their
rules only, then from any state both go through any text in the same steps: the step with the same
number leads from the same context to the same context, and so consumes the same range of the
text.  There is a next step until the text is at its end. -/
theorem same_moves_of_forgetActions {g g' : Grammar} {t t' : Table} (h : g.compile = .ok t)
    (h' : g'.compile = .ok t') (hsame : g.forgetActions = g'.forgetActions) {state : StateId}
    (hs : state < t.states.length) (text : List Char) (base : Nat) {depth : Nat}
    (hd : depth ≤ maxSubLexDepth) :
    (∀ n x y, Moves t (.start state text base depth) n x y ↔
      Moves t' (.start state text base depth) n x y) ∧
    (∀ n x y x' y', Moves t (.start state text base depth) n x y →
      Moves t' (.start state text base depth) n x' y' → x = x' ∧ y = y') ∧
    ∀ n returned m, Reaches t (.start state text base depth) n returned m →
      m.context.pos < byteLength text →
        ∃ y, Moves t (.start state text base depth) n m.context y := by
  have htables := Grammar.forgetActions_eq_of_compile h h' hsame
  have hlength : t.states.length = t'.states.length := by
    simpa [Table.forgetActions] using congrArg (·.states.length) htables
  have ht := Grammar.closed_of_compile h
  refine ⟨fun n x y => ⟨fun hm => ?_, fun hm => ?_⟩, fun n x y x' y' hm hm' => ?_,
    fun n returned m hm hr => hm.exists_moves ht hs hd hr⟩
  · exact hm.follow htables (Grammar.closed_of_compile h') (hlength ▸ hs) hd
  · exact hm.follow htables.symm ht hs hd
  · exact hm.unique htables hm'

/-- The grammar `nesting` with a single token for what the rule matches. -/
def unnested : Grammar where
  name := "nesting"
  states := [
    { name := "root"
      entries := [.rule {
        pattern := "(a+)b?"
        action := .token .name
        transition := some (.push ["inner", "root"]) }]
      fallback := some .pushCurrent },
    { name := "inner", entries := [.include "root"], fallback := some (.pop 1) }]

def unnestedTable : Table :=
  let rule : TableRule := { nestingRule with action := .token .name }
  { nestingTable with
    states := [⟨"root", [rule], some .pushCurrent⟩, ⟨"inner", [rule], some (.pop 1)⟩] }

theorem same_moves_of_forgetActions_nesting :
    nesting.compile = .ok nestingTable ∧ unnested.compile = .ok unnestedTable ∧
      nesting.forgetActions = unnested.forgetActions ∧
      ∃ x y, Moves nestingTable (.start 0 ['a', 'b', 'c']) 0 x y ∧
        Moves unnestedTable (.start 0 ['a', 'b', 'c']) 0 x y := by
  have hcompile : unnested.compile = .ok unnestedTable := by decide +kernel
  have hroot : 0 < nestingTable.states.length := by decide
  obtain ⟨hsame, -, hnext⟩ := same_moves_of_forgetActions compile_nesting hcompile rfl hroot
    ['a', 'b', 'c'] 0 (Nat.zero_le maxSubLexDepth)
  obtain ⟨y, hmove⟩ := hnext 0 [] _ .start (by decide)
  exact ⟨compile_nesting, hcompile, rfl, _, y, hmove, (hsame _ _ _).mp hmove⟩

end Bytewise

end Highlighter
