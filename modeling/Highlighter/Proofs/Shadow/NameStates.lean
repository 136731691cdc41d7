/-
# States for one name

`class`, `var` and `import` are entered after a word that announces a name.  Each of them has a
single rule, for that name, which leaves the state again (`TableState.NamesOnce`); where the rule
does not match a character becomes an error, and the state stays.

So the stack is never higher than two states, the main state and perhaps one of these
(`Rests.of_reaches`), and **what follows while one of them is on the stack is errors of one
character, and then the name, with which the stack is down to the main state again**
(`name_states_single_shot`).  The lexer for the types of a method head has a stack of its own,
which is dropped with it, and so a step of the main state is no different for having such a lexer at
work in it.
-/
import Highlighter.Proofs.Bytewise.Fallbacks
import Highlighter.Proofs.Shadow.Methods

namespace Highlighter

/-! ## 1. States with one way out -/

/-- What a step does in a state without a fallback. -/
theorem Table.event_cases {t : Table} {c : Cursor}
    (h : (t.state c.stack.top).fallback = none) :
    t.event c = .error ∨
      ∃ r ∈ (t.state c.stack.top).rules, ∃ m, t.event c = .rule r m ∧ 0 < m.length := by
  cases hfirst : firstMatch? (t.state c.stack.top).rules c.before c.rest with
  | none =>
    refine Or.inl ?_
    unfold Table.event
    dsimp only
    rw [hfirst, h]
  | some found =>
    obtain ⟨r, m⟩ := found
    obtain ⟨hr, hm⟩ := firstMatch?_eq_some hfirst
    exact Or.inr ⟨r, hr, m, Table.event_of_firstMatch? hfirst, TableRule.length_pos_of_match? hm⟩

/-- The state has one rule, which makes one token of its match and leaves the state. -/
def TableState.NamesOnce (s : TableState) (kind : Kind) : Prop :=
  s.rules.map (fun r => (r.action, r.transition)) = [(.token kind, some (.pop 1))] ∧
    s.fallback = none

instance (s : TableState) (kind : Kind) : Decidable (s.NamesOnce kind) :=
  inferInstanceAs (Decidable (_ ∧ _))

/-- **A step in such a state** gives an error of one character and stays, or it gives one token of
the kind and leaves. -/
theorem Stream.step_of_namesOnce {t : Table} {sub : Option SubLexer} {s : Stream} {kind : Kind}
    (h : (t.state s.cursor.stack.top).NamesOnce kind) (hr : s.cursor.rest ≠ []) :
    ((s.step t sub).cursor.stack = s.cursor.stack ∧
      ∃ c, (s.step t sub).pending = s.pending ++ [⟨.error, [c], s.cursor.offset⟩]) ∨
    ((s.step t sub).cursor.stack = s.cursor.stack.pop 1 ∧
      ∃ text, (s.step t sub).pending = s.pending ++ [⟨kind, text, s.cursor.offset⟩]) := by
  obtain ⟨hrules, hfallback⟩ := h
  obtain ⟨c, rest, hrest⟩ := List.exists_cons_of_ne_nil hr
  rcases Table.event_cases hfallback with hevent | ⟨r, hr, m, hevent, hm⟩
  · refine Or.inl ⟨?_, c, ?_⟩
    · rw [Stream.step, hevent]
      rfl
    · rw [Stream.step, hevent]
      dsimp only
      rw [Cursor.emitted, hrest]
      rfl
  · have hmem : (r.action, r.transition) ∈ [(Action.token kind, some (Transition.pop 1))] :=
      hrules ▸ List.mem_map_of_mem hr
    obtain ⟨haction, htransition⟩ := Prod.mk.inj (List.mem_singleton.mp hmem)
    have htext : s.cursor.rest.take m.length ≠ [] := by
      rw [Ne, List.take_eq_nil_iff, not_or]
      exact ⟨Nat.ne_of_gt hm, hrest ▸ List.cons_ne_nil c rest⟩
    refine Or.inr ⟨?_, s.cursor.rest.take m.length, ?_⟩
    · rw [Stream.step, hevent]
      dsimp only
      rw [Cursor.after, htransition]
      rfl
    · rw [Stream.step, hevent]
      dsimp only
      rw [Cursor.emitted, haction]
      exact congrArg (s.pending ++ ·) (Emission.piece_of_ne_nil htext kind s.cursor.offset)

namespace Shadow

open Bytewise

/-! ## 2. The stacks of Shadow -/

/-- The states for one name, with the kinds of the names. -/
def nameStates : List (String × Kind) :=
  [("class", .nameClass), ("var", .name), ("import", .nameNamespace)]

/-- All stacks that a lexer ever has. -/
def possibleStacks : List Stack := .single 0 :: [1, 2, 3].map fun id => ⟨id, [0]⟩

/-- The names of the states of a stack, the bottom one first. -/
def stackNames (stack : Stack) : List String := stack.bottomUp.map Compiled.table.stateName

theorem names_of_mem : ∀ stack ∈ possibleStacks, stackNames stack = ["root"] ∨
    ∃ p ∈ nameStates, stackNames stack = ["root", p.1] := by
  decide +kernel

theorem namesOnce_of_names : ∀ stack ∈ possibleStacks, ∀ p ∈ nameStates,
    stackNames stack = ["root", p.1] →
      stackNames (stack.pop 1) = ["root"] ∧
        (Compiled.table.state stack.top).NamesOnce p.2 := by
  decide +kernel

theorem applyOptional_mem : ∀ stack ∈ possibleStacks,
    (Compiled.table.state stack.top).fallback = none ∧
      ∀ r ∈ (Compiled.table.state stack.top).rules,
        stack.applyOptional r.transition ∈ possibleStacks := by
  decide +kernel

/-- **A step leads from one of these stacks to one of them.** -/
theorem stack_step_mem {s : Stream} (h : s.cursor.stack ∈ possibleStacks) (sub : Option SubLexer) :
    (s.step Compiled.table sub).cursor.stack ∈ possibleStacks := by
  obtain ⟨hfallback, hrules⟩ := applyOptional_mem _ h
  rw [Stream.step]
  rcases Table.event_cases hfallback with hevent | ⟨r, hr, m, hevent, -⟩
  · rw [hevent]
    exact h
  · rw [hevent]
    exact hrules r hr

/-! ## 3. Moments -/

/-- The machine is where the stream is, with one of the possible stacks. -/
structure Rests (depth : Nat) (m : Machine) (s : Stream) : Prop where
  represents : Represents Compiled.table depth m s
  stack : s.cursor.stack ∈ possibleStacks

section

variable {depth : Nat} {m m' : Machine} {s : Stream}

theorem rests_start (text : List Char) (base depth : Nat) :
    Rests depth (.start 0 text base depth) (.start 0 text base) :=
  ⟨represents_start (by decide) text base, List.mem_cons_self⟩

theorem Rests.stateNames_eq (h : Rests depth m s) :
    m.stateNames Compiled.table = pure (stackNames s.cursor.stack) := by
  rw [stackNames, ← h.represents.context.stack]
  refine Machine.stateNames_eq fun id hid => h.represents.context.within id ?_
  rwa [← Stack.mem_bottomUp, ← h.represents.context.stack]

theorem Rests.give (h : Rests depth m s) (pending : List Token) :
    Rests depth { m with pending } { s with pending } :=
  ⟨⟨h.represents.depth_eq, h.represents.context, rfl⟩, h.stack⟩

/-- **One step of the machine is one step of the stream.** -/
theorem Rests.step (hd : depth ≤ maxSubLexDepth) (h : Rests depth m s)
    (hr : m.context.pos < byteLength m.text) (hm : Bytewise.step Compiled.table m = pure m') :
    s.cursor.rest ≠ [] ∧ Rests depth m'
      (s.step Compiled.table (Compiled.table.subLexer (maxSubLexDepth - depth))) := by
  have hrest : s.cursor.rest ≠ [] := fun hend =>
    Nat.not_le_of_lt hr (h.represents.end_iff.mpr hend)
  have hsub := subLexesTo_subLexer closed_table (Nat.add_sub_cancel' hd)
  obtain ⟨m₁, hm₁, hrep⟩ := step_represents closed_table hsub h.represents hrest
  obtain rfl := Run.pure_inj (hm.symm.trans hm₁)
  exact ⟨hrest, hrep, stack_step_mem h.stack _⟩

/-- **Every moment has one of the possible stacks.** -/
theorem Rests.of_reaches (hd : depth ≤ maxSubLexDepth) {mc : Machine} (hs : Rests depth mc s)
    {n : Nat} {returned : List Token} (h : Reaches Compiled.table mc n returned m) :
    ∃ s', Rests depth m s' := by
  induction h with
  | start => exact ⟨s, hs⟩
  | step _ _ hr hm ih =>
    obtain ⟨s₁, h₁⟩ := ih
    exact ⟨_, (h₁.step hd hr hm).2⟩
  | give _ _ ih =>
    obtain ⟨s₁, h₁⟩ := ih
    exact ⟨_, h₁.give _⟩

end

/-! ## 4. What follows the announcement of a name -/

/-- The step gave an error of one character, and the state is on the stack still. -/
def Skips (state : String) (x : Record) : Prop :=
  (∃ c start, x.after.pending = [⟨.error, [c], start⟩]) ∧
    x.after.stateNames table = pure ["root", state]

/-- The step gave one token of the kind, and the main state is on top again. -/
def Names (kind : Kind) (x : Record) : Prop :=
  (∃ text start, x.after.pending = [⟨kind, text, start⟩]) ∧
    x.after.stateNames table = pure ["root"]

/-- The steps that follow once a state for a name is on the stack. -/
inductive NameFollows (state : String) (kind : Kind) : List Record → Prop where
  /-- There was no name yet. -/
  | waiting {log : List Record} (h : ∀ x ∈ log, Skips state x) : NameFollows state kind log
  | named {skipped later : List Record} {name : Record} (h : ∀ x ∈ skipped, Skips state x)
      (hname : Names kind name) : NameFollows state kind (skipped ++ name :: later)

section

variable {depth : Nat} {m m' : Machine} {s : Stream} {state : String} {kind : Kind}

/-- **One step in a state for a name** skips a character or gives the name. -/
theorem Rests.skips_or_names (hd : depth ≤ maxSubLexDepth) (h : Rests depth m s)
    (hstate : (state, kind) ∈ nameStates) (hnames : stackNames s.cursor.stack = ["root", state])
    (hp : m.pending = []) (hr : m.context.pos < byteLength m.text) {deed : Deed}
    (hm : act Compiled.table m = pure (deed, m')) :
    (Skips state ⟨m, deed, m'⟩ ∧ ∃ s', Rests depth m' s' ∧
        stackNames s'.cursor.stack = ["root", state]) ∨
      Names kind ⟨m, deed, m'⟩ := by
  have hstep : Bytewise.step Compiled.table m = pure m' := by
    rw [step_eq_act, hm]
    rfl
  obtain ⟨hrest, hafter⟩ := h.step hd hr hstep
  obtain ⟨hpop, honce⟩ := namesOnce_of_names _ h.stack _ hstate hnames
  have hpending : s.pending = [] := h.represents.pending.symm.trans hp
  rcases Stream.step_of_namesOnce honce hrest with ⟨hstack, c, htoken⟩ | ⟨hstack, text, htoken⟩
  · have hnames' := hstack ▸ hnames
    refine Or.inl ⟨⟨⟨c, s.cursor.offset, ?_⟩, ?_⟩, _, hafter, hnames'⟩
    · rw [hafter.represents.pending, htoken, hpending]
      rfl
    · rw [table_eq, hafter.stateNames_eq, hnames']
  · refine Or.inr ⟨⟨text, s.cursor.offset, ?_⟩, ?_⟩
    · rw [hafter.represents.pending, htoken, hpending]
      rfl
    · rw [table_eq, hafter.stateNames_eq, hstack, hpop]

/-- **The steps in a state for a name.**  By induction on the steps: as long as all of them skipped
a character the state is on the stack. -/
theorem nameFollows (hd : depth ≤ maxSubLexDepth) (h : Rests depth m s)
    (hstate : (state, kind) ∈ nameStates) (hnames : stackNames s.cursor.stack = ["root", state])
    {log : List Record} (hlog : History Compiled.table m log m') :
    ((∀ x ∈ log, Skips state x) ∧
        ∃ s', Rests depth m' s' ∧ stackNames s'.cursor.stack = ["root", state]) ∨
      ∃ skipped name later, log = skipped ++ name :: later ∧ (∀ x ∈ skipped, Skips state x) ∧
        Names kind name := by
  induction hlog with
  | start => exact Or.inl ⟨List.forall_mem_nil _, s, h, hnames⟩
  | step _ hp hr hm ih =>
    rcases ih with ⟨hskips, s₁, h₁, hnames₁⟩ | ⟨skipped, name, later, rfl, hskips, hname⟩
    · rcases h₁.skips_or_names hd hstate hnames₁ hp hr hm with ⟨hskip, hafter⟩ | hname
      · exact Or.inl ⟨List.forall_mem_append.mpr
          ⟨hskips, List.forall_mem_singleton.mpr hskip⟩, hafter⟩
      · exact Or.inr ⟨_, _, [], rfl, hskips, hname⟩
    · exact Or.inr ⟨skipped, name, _, List.append_assoc _ _ _, hskips, hname⟩
  | give _ _ ih =>
    refine ih.imp_left fun ⟨hskips, s₁, h₁, hnames₁⟩ => ?_
    exact ⟨hskips, _, h₁.give _, hnames₁⟩

end

/-- **The states for names are left with the name.**  At every moment of a lexer that began in the
main state, for a whole text or for a part of one:

* its stack is the main state, with one state for a name on it at most;
* if there is one, the steps that follow are errors of one character each, with the state still on
  the stack, and then a single token of the kind of the name, with which the stack is the main state
  again;
* and the steps go on to the end of the text. -/
theorem name_states_single_shot (text : List Char) (base : Nat) {depth : Nat}
    (hd : depth ≤ maxSubLexDepth) {n : Nat} {returned : List Token} {m : Machine}
    (h : Reaches table (.start table.initial text base depth) n returned m) :
    (m.stateNames table = pure ["root"] ∨
        ∃ p ∈ nameStates, m.stateNames table = pure ["root", p.1]) ∧
      (∀ state kind, (state, kind) ∈ nameStates → m.stateNames table = pure ["root", state] →
        ∀ log m', History table m log m' → NameFollows state kind log) ∧
      ∃ log m', History table m log m' ∧ m'.context.pos = byteLength text := by
  rw [table_eq] at h ⊢
  obtain ⟨s, hs⟩ := (rests_start text base depth).of_reaches hd h
  have hnames := hs.stateNames_eq
  refine ⟨?_, fun state kind hstate hroot log m' hlog => ?_, ?_⟩
  · rw [hnames]
    refine (names_of_mem _ hs.stack).imp (congrArg pure) ?_
    exact fun ⟨p, hp, heq⟩ => ⟨p, hp, congrArg pure heq⟩
  · have hstack := Run.pure_inj (hnames.symm.trans hroot)
    rcases nameFollows hd hs hstate hstack hlog with
      ⟨hskips, -⟩ | ⟨skipped, name, later, rfl, hskips, hname⟩
    · exact .waiting hskips
    · exact .named hskips hname
  · obtain ⟨steps, returned', m', hmore, hend⟩ :=
      Reaches.exists_end closed_table (by decide) hd h
    obtain ⟨log, -, hlog⟩ := History.start.exists_append hmore
    exact ⟨log, m', hlog, hend⟩

/-- After `var` the digit is skipped, and the name is what follows it. -/
theorem name_states_single_shot_var :
    0 ≤ maxSubLexDepth ∧ ∃ m, Reaches table (.start table.initial "var 1x".toList) 1 [] m ∧
      m.stateNames table = pure ["root", "var"] ∧
      ∃ log m', History table m log m' ∧ m'.context.pos = 6 ∧ NameFollows "var" .name log := by
  have hd : 0 ≤ maxSubLexDepth := Nat.zero_le _
  have hsub := subLexesTo_subLexer closed_table (Nat.add_sub_cancel' hd)
  have hstart := rests_start "var 1x".toList 0 0
  obtain ⟨m, hm, -⟩ := step_represents closed_table hsub hstart.represents (by decide)
  obtain ⟨-, hafter⟩ := hstart.step hd (by decide) hm
  have hnames : stackNames (((Stream.start 0 "var 1x".toList).cursor.after
      (Compiled.table.event (Stream.start 0 "var 1x".toList).cursor)).stack) =
      ["root", "var"] := by decide +kernel
  have hstate : m.stateNames table = pure ["root", "var"] := by
    rw [table_eq, hafter.stateNames_eq]
    exact congrArg pure hnames
  have hreach : Reaches table (.start table.initial "var 1x".toList) 1 [] m := by
    rw [table_eq]
    exact Reaches.start.step rfl (by decide) hm
  obtain ⟨-, hfollows, log, m', hlog, hend⟩ := name_states_single_shot _ 0 hd hreach
  exact ⟨hd, m, hreach, hstate, log, m', hlog, hend,
    hfollows "var" .name (by decide) hstate log m' hlog⟩

end Shadow

end Highlighter
