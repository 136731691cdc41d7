/-
# Lexing by byte offsets is safe and ends

What agreement with streams gives for the tables of grammars that compile.

* **Every call returns** (`lexing_ends`), whatever fallbacks and groups the table has: the steps of
  a machine are at most linear in its text, and it returns no more tokens than there are characters.
* **Nothing ever fails** (`reachable_safe`), in a machine for a whole input and in those for the
  texts of groups.
-/
import Highlighter.Proofs.Bytewise.Agreement
import Highlighter.Proofs.Bytewise.Frames
import Highlighter.Proofs.Lexer.Steps

namespace Highlighter

namespace Bytewise

/-! ## 1. Every moment of a machine -/

section

variable {t : Table} {depth : Nat} {sub : Option SubLexer}
variable (ht : t.Closed) (hsub : SubLexesTo t depth sub) (hl : ∀ lex ∈ sub, lex.Lossless)

include ht hsub hl

/-- **At every moment the machine is where a stream is** that has accounted for the text, and the
steps taken are paid for. -/
theorem Reaches.exists_stream {mc m : Machine} {n : Nat} {returned : List Token}
    (h : Reaches t mc n returned m) {s : Stream} (hs : Represents t depth mc s)
    {text : List Char} {base : Nat} (ha : s.Accounts text base []) :
    ∃ s', Represents t depth m s' ∧ s'.Accounts text base returned ∧
      n + s'.cursor.potential t.growth ≤ s.cursor.potential t.growth := by
  induction h with
  | start => exact ⟨s, hs, ha, Nat.le_of_eq (Nat.zero_add _)⟩
  | step _ _ hr hm ih =>
    obtain ⟨s₁, h₁, ha₁, hn⟩ := ih
    have hrest : s₁.cursor.rest ≠ [] := fun h0 => Nat.not_le_of_lt hr (h₁.end_iff.mpr h0)
    obtain ⟨m₂, hm₂, h₂⟩ := step_represents ht hsub h₁ hrest
    obtain rfl := Run.pure_inj (hm.symm.trans hm₂)
    have hlt : (s₁.step t sub).cursor.potential t.growth < s₁.cursor.potential t.growth :=
      Cursor.potential_after_event_lt t hrest
    exact ⟨s₁.step t sub, h₂, Stream.step_accounts hl ha₁, by omega⟩
  | @give _ _ pending _ _ _ hp ih =>
    obtain ⟨s₁, h₁, ha₁, hn⟩ := ih
    have hps := h₁.pending.symm.trans hp
    exact ⟨{ s₁ with pending }, ⟨h₁.depth_eq, h₁.context, rfl⟩, ha₁.give hps, hn⟩

end

/-- Every lexer that is nested no deeper than it may be, beginning in a state of the table. -/
theorem exists_stream {t : Table} (ht : t.Closed) {state : StateId} (hs : state < t.states.length)
    {text : List Char} {base depth : Nat} (hd : depth ≤ maxSubLexDepth) {m : Machine} {n : Nat}
    {returned : List Token} (h : Reaches t (.start state text base depth) n returned m) :
    ∃ s, Represents t depth m s ∧ s.Accounts text base returned ∧
      n + s.cursor.potential t.growth ≤ (t.growth + 1) * (2 * text.length + 1) + 1 :=
  h.exists_stream ht (subLexesTo_subLexer ht (Nat.add_sub_cancel' hd)) (t.lossless_subLexer _)
    (represents_start hs text base) (Stream.accounts_start state text base)

/-! ## 2. Lexing ends -/

/-- **Every call returns.**  From any moment of a lexer on, the next call comes back after so many
steps that all steps up to then are linear in the length of the text, and all calls together give
the tokens of the stream, of which there are no more than the text has characters. -/
theorem lexing_ends {g : Grammar} {t : Table} (h : g.compile = .ok t) {state : StateId}
    (hs : state < t.states.length) (text : List Char) (base : Nat) {depth : Nat}
    (hd : depth ≤ maxSubLexDepth) :
    (∀ n returned m, Reaches t (.start state text base depth) n returned m →
      n ≤ (t.growth + 1) * (2 * text.length + 1) ∧ returned.length ≤ text.length ∧
      ∃ steps token? m', next t m = pure (token?, m') ∧
        Reaches t (.start state text base depth) (n + steps) (returned ++ token?.toList) m') ∧
    ∃ tokens, collect t (.start state text base depth) = pure tokens ∧
      tokens = (Stream.start state text base).tokens t (t.subLexer (maxSubLexDepth - depth)) ∧
      tokens.length ≤ text.length := by
  have ht := Grammar.closed_of_compile h
  have hsub := subLexesTo_subLexer ht (Nat.add_sub_cancel' hd)
  have hl := t.lossless_subLexer (maxSubLexDepth - depth)
  refine ⟨fun n returned m hm => ?_, _,
    collect_eq ht hsub (represents_start hs text base), rfl, ?_⟩
  · obtain ⟨s, hrep, hacc, hn⟩ := exists_stream ht hs hd hm
    obtain ⟨steps, m', hnext, hreach, -⟩ := next_represents ht hsub hrep
    have hdepth : 1 ≤ s.cursor.potential t.growth :=
      Nat.le_trans (Nat.succ_pos _) (Nat.le_add_left _ _)
    refine ⟨by omega, ?_, steps, _, m', hnext, hm.trans hreach⟩
    have hlen := (tiled_append.mp hacc.tiled).1.length_le
    rw [hacc.text_eq, texts_append, List.append_assoc, List.length_append]
    omega
  · have hcut := Stream.tokens_accounts hl (t := t) (Stream.accounts_start state text base)
    rw [List.nil_append] at hcut
    have hlen := hcut.tiled.length_le
    rwa [hcut.texts_eq] at hlen

/-- A grammar whose only pattern has a group that may be the whole match, lexed from the state of
the rule once more, and whose fallbacks let the stack grow and shrink. -/
def nesting : Grammar where
  name := "nesting"
  states := [
    { name := "root"
      entries := [.rule {
        pattern := "(a+)b?"
        action := .groups [.using "root"] .text
        transition := some (.push ["inner", "root"]) }]
      fallback := some .pushCurrent },
    { name := "inner", entries := [.include "root"], fallback := some (.pop 1) }]

def nestingRule : TableRule where
  source := "(a+)b?"
  pattern := .seq (.group 1 (.repeated (.char 'a') 1 none true))
    (.repeated (.char 'b') 0 (some 1) true)
  action := .groups [.using 0] .text
  transition := some (.push [1, 0])

def nestingTable : Table where
  name := "nesting"
  initial := 0
  states := [⟨"root", [nestingRule], some .pushCurrent⟩, ⟨"inner", [nestingRule], some (.pop 1)⟩]

theorem compile_nesting : nesting.compile = .ok nestingTable := by decide +kernel

theorem lexing_ends_nesting :
    nesting.compile = .ok nestingTable ∧ 0 < nestingTable.states.length ∧ 0 ≤ maxSubLexDepth ∧
      (∀ n returned m, Reaches nestingTable (.start 0 ['a', 'a', 'b', 'c']) n returned m →
        n ≤ 27 ∧ returned.length ≤ 4) ∧
      ∃ tokens, collect nestingTable (.start 0 ['a', 'a', 'b', 'c']) = pure tokens ∧
        tokens.length ≤ 4 := by
  have hroot : 0 < nestingTable.states.length := by decide
  obtain ⟨hsteps, tokens, hcollect, -, hlen⟩ :=
    lexing_ends compile_nesting hroot ['a', 'a', 'b', 'c'] 0 (Nat.zero_le maxSubLexDepth)
  refine ⟨compile_nesting, hroot, Nat.zero_le _, fun n returned m hm => ?_, tokens, hcollect, hlen⟩
  obtain ⟨hn, hreturned, -⟩ := hsteps n returned m hm
  exact ⟨hn, hreturned⟩

/-! ## 3. Lexing is safe -/

/-- A text that is lexed on its own is lexed from a state that a rule of the state on top names. -/
theorem Machine.Opens.exists_rule {t : Table} {m : Machine} {state : StateId} {start : Nat}
    {piece : List Char} (h : m.Opens t state start piece) :
    ∃ id current, m.context.current = pure id ∧ t.states[id]? = some current ∧
      ∃ r ∈ current.rules, state ∈ r.action.targets := by
  obtain ⟨id, current, r, hit, actions, gap, index, -, hid, hcurrent, hfirst, haction, hgroup, -⟩ :=
    h
  refine ⟨id, current, hid, getElem?_of_stateAt hcurrent, r, mem_of_firstHit hfirst, ?_⟩
  rw [haction]
  exact List.mem_filterMap.mpr ⟨_, List.mem_of_getElem? hgroup, rfl⟩

theorem Machine.Opens.state_lt {t : Table} (ht : t.Closed) {m : Machine} {state : StateId}
    {start : Nat} {piece : List Char} (h : m.Opens t state start piece) :
    state < t.states.length := by
  obtain ⟨_, current, -, hcurrent, r, hr, htarget⟩ := h.exists_rule
  exact ht.actions current (List.mem_of_getElem? hcurrent) r hr state htarget

/-- **Whatever is reachable is where some stream is.**  A lexer for the text of a group begins in a
state of the table, whatever the lexer around it is doing. -/
theorem Reachable.exists_stream {t : Table} (ht : t.Closed) {m : Machine} (h : Reachable t m) :
    ∃ depth s text base returned, depth ≤ maxSubLexDepth ∧ Represents t depth m s ∧
      s.Accounts text base returned := by
  cases h with
  | whole hs hm =>
    obtain ⟨s, hrep, hacc, -⟩ := Bytewise.exists_stream ht hs (Nat.zero_le _) hm
    exact ⟨0, s, _, _, _, Nat.zero_le _, hrep, hacc⟩
  | group _ hd hg hm =>
    obtain ⟨s', hrep', hacc', -⟩ := Bytewise.exists_stream ht (hg.state_lt ht) hd hm
    exact ⟨_, s', _, _, _, hd, hrep', hacc'⟩

/-- The machine is where it can go on: no look-up and no slice at its place fails. -/
structure Safe (g : Grammar) (t : Table) (m : Machine) : Prop where
  stack_ne_nil : m.context.stack ≠ []
  /-- The states on the stack are those of the grammar, at their positions. -/
  declared : ∀ id ∈ m.context.stack, ∃ s, g.states[id]? = some s ∧ t.stateName id = s.name
  pos_le : m.context.pos ≤ byteLength m.text
  /-- The cursor is between two characters. -/
  boundary : ∃ before rest, split? m.text m.context.pos = some (before, rest)
  pending : ∀ token ∈ m.pending, token.text ≠ []

theorem Represents.safe {g : Grammar} {t : Table} (hto : g.CompilesTo t) {m : Machine} {depth : Nat}
    {s : Stream} (h : Represents t depth m s) {text : List Char} {base : Nat}
    {returned : List Token} (ha : s.Accounts text base returned) : Safe g t m := by
  obtain ⟨before, htext, hpos, -⟩ := h.context.place
  refine ⟨?_, fun id hid => ?_, ?_, ⟨before, s.cursor.rest, ?_⟩, fun token htoken => ?_⟩
  · rw [h.context.stack]
    exact s.cursor.stack.bottomUp_ne_nil
  · rw [h.context.stack, Stack.mem_bottomUp] at hid
    have hlt : id < g.states.length := hto.states.length_eq ▸ h.context.within id hid
    have hs : g.states[id]? = some g.states[id] := List.getElem?_eq_getElem hlt
    exact ⟨_, hs, (hto.ids id _ hs).2.2⟩
  · rw [h.byteLength_text]
    exact Nat.le_add_right _ _
  · exact split?_eq_some_iff.mpr ⟨htext, hpos⟩
  · rw [h.pending] at htoken
    exact ha.tiled.text_ne_nil (List.mem_append_right _ htoken)

theorem Machine.stateNames_eq {t : Table} {m : Machine}
    (h : ∀ id ∈ m.context.stack, id < t.states.length) :
    m.stateNames t = pure (m.context.stack.map t.stateName) := by
  unfold Machine.stateNames
  generalize m.context.stack = ids at h
  induction ids with
  | nil => rfl
  | cons id ids ih =>
    have hstate := (stateAt_eq (h id List.mem_cons_self)).1
    rw [List.mapM_cons, hstate, ih fun i hi => h i (List.mem_cons_of_mem _ hi)]
    rfl

/-- **A compiled table is safe to lex with.**  Every reachable machine is safe and its states have
names.  It is where some stream is, and neither the step nor the call that comes next can fail, be
it in this machine or in those that it starts for the texts of groups: they do what the stream
does. -/
theorem reachable_safe {g : Grammar} {t : Table} (h : g.compile = .ok t) {m : Machine}
    (hm : Reachable t m) :
    Safe g t m ∧ m.stateNames t = pure (m.context.stack.map t.stateName) ∧
      ∃ s, Represents t m.depth m s ∧
        (m.context.pos < byteLength m.text → ∃ m', step t m = pure m' ∧
          Represents t m.depth m' (s.step t (t.subLexer (maxSubLexDepth - m.depth)))) ∧
        ∃ m', next t m =
          pure ((s.next? t (t.subLexer (maxSubLexDepth - m.depth))).map (·.1), m') := by
  have ht := Grammar.closed_of_compile h
  obtain ⟨depth, s, text, base, returned, hd, hrep, hacc⟩ := hm.exists_stream ht
  obtain rfl := hrep.depth_eq
  have hsub := subLexesTo_subLexer ht (Nat.add_sub_cancel' hd)
  refine ⟨hrep.safe (Grammar.valid_and_compilesTo_of_compile h).2 hacc,
    Machine.stateNames_eq fun id hid => ?_, s, hrep, fun hr => ?_, ?_⟩
  · rw [hrep.context.stack, Stack.mem_bottomUp] at hid
    exact hrep.context.within id hid
  · have hrest : s.cursor.rest ≠ [] := fun h0 => Nat.not_le_of_lt hr (hrep.end_iff.mpr h0)
    exact step_represents ht hsub hrep hrest
  · obtain ⟨-, m', hnext, -⟩ := next_represents ht hsub hrep
    exact ⟨m', hnext⟩

/-- The text of the group is the whole match, so the machine for it begins as the one around it
did. -/
theorem reachable_safe_nesting :
    nesting.compile = .ok nestingTable ∧
      Reachable nestingTable (.start 0 ['a', 'a'] 0 1) ∧
      Safe nesting nestingTable (.start 0 ['a', 'a'] 0 1) ∧
      ∃ m', step nestingTable (.start 0 ['a', 'a'] 0 1) = pure m' := by
  have hroot : 0 < nestingTable.states.length := by decide
  have hmatch : firstMatch? [nestingRule] none ['a', 'a'] =
      some (nestingRule, ⟨2, [⟨1, 0, 2⟩]⟩) := by decide +kernel
  have hfirst : firstHit ([] ++ ['a', 'a']) 0 [nestingRule] = _ := firstHit_eq rfl _
  rw [List.getLast?_nil, hmatch] at hfirst
  have hopens : (Machine.start 0 ['a', 'a']).Opens nestingTable 0 0 ['a', 'a'] :=
    ⟨0, _, nestingRule, _, _, _, 0, _, rfl, rfl, hfirst, rfl, rfl, rfl, rfl⟩
  have hreach : Reachable nestingTable (.start 0 ['a', 'a'] 0 1) :=
    .group (.whole hroot .start) (by decide) hopens .start
  obtain ⟨hsafe, -, s, -, hstep, -⟩ := reachable_safe compile_nesting hreach
  obtain ⟨m', hm', -⟩ := hstep (by decide)
  exact ⟨compile_nesting, hreach, hsafe, m', hm'⟩

end Bytewise

end Highlighter
