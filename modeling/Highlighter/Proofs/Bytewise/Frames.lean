/-
# What a step reads and what it leaves alone

A machine has tokens waiting, and it has a context: its place and its stack.  A step gives tokens and
moves the context on, and the two have little to do with each other.

* **The context moves on by itself** (`exists_of_step`): where a step leads to is computed from the
  text, the context and the patterns and transitions of the state on top (`Context.advance`),
  whatever tokens the step gives and whatever other lexers were at work in it.
* **What waits does not matter** (`emitGroups_behind`, `collect_behind`): with more tokens waiting a
  machine does the same, and these tokens come first.
-/
import Highlighter.Proofs.Bytewise.Machine

namespace Highlighter

namespace Bytewise

/-! ## 1. Computations in order -/

theorem Run.bind_eq_pure_iff {α β : Type} {x : Run α} {f : α → Run β} {b : β} :
    (x >>= f) = pure b ↔ ∃ a, x = pure a ∧ f a = pure b := by
  constructor
  · intro h
    match x with
    | some (.ok a) => exact ⟨a, rfl, h⟩
    | some (.error _) => cases h
    | none => cases h
  · rintro ⟨a, rfl, h⟩
    exact h

/-! ## 2. What is looked up -/

section

variable {text : List Char} {pos : Nat} {rules : List TableRule}

/-- The first rule that matches, with its position among the rules. -/
def firstPlace (text : List Char) (pos : Nat) :
    List TableRule → Run (Option (Nat × TableRule × Hit))
  | [] => pure none
  | r :: rules => do
    match ← matchAt text pos r with
    | some hit => return some (0, r, hit)
    | none => return (← firstPlace text pos rules).map fun (index, found) => (index + 1, found)

/-- The search is the same with the position left out. -/
theorem firstHit_eq_firstPlace :
    firstHit text pos rules = Option.map Prod.snd <$> firstPlace text pos rules := by
  induction rules with
  | nil => rfl
  | cons first rules ih =>
    rw [firstHit, firstPlace, map_bind]
    refine bind_congr fun hit? => ?_
    cases hit? with
    | some hit => rfl
    | none => simp [ih, Function.comp_def]

/-- **The first rule that matches is found**, at its position. -/
theorem firstPlace_eq_some_iff {index : Nat} {r : TableRule} {hit : Hit} :
    firstPlace text pos rules = pure (some (index, r, hit)) ↔ rules[index]? = some r ∧
      matchAt text pos r = pure (some hit) ∧
      ∀ r' ∈ rules.take index, matchAt text pos r' = pure none := by
  induction rules generalizing index with
  | nil => exact ⟨fun h => (by cases Run.pure_inj h), fun ⟨h, _⟩ => (by cases h)⟩
  | cons first rules ih =>
    rw [firstPlace, Run.bind_eq_pure_iff]
    constructor
    · rintro ⟨hit?, hfirst, h⟩
      cases hit? with
      | none =>
        obtain ⟨found?, hfound, h⟩ := Run.bind_eq_pure_iff.mp h
        obtain ⟨⟨i, r', hit'⟩, rfl, heq⟩ := Option.map_eq_some_iff.mp (Run.pure_inj h)
        obtain ⟨rfl, rfl, rfl⟩ := heq
        obtain ⟨hr, hhit, hbefore⟩ := ih.mp hfound
        exact ⟨hr, hhit, List.forall_mem_cons.mpr ⟨hfirst, hbefore⟩⟩
      | some hit' =>
        obtain ⟨rfl, rfl, rfl⟩ := Option.some.inj (Run.pure_inj h)
        exact ⟨rfl, hfirst, fun _ hr => by cases hr⟩
    · rintro ⟨hr, hhit, hbefore⟩
      cases index with
      | zero =>
        obtain rfl := Option.some.inj hr
        exact ⟨some hit, hhit, rfl⟩
      | succ index =>
        obtain ⟨hfirst, hbefore⟩ := List.forall_mem_cons.mp hbefore
        exact ⟨none, hfirst, by rw [ih.mpr ⟨hr, hhit, hbefore⟩]; rfl⟩

theorem firstPlace_eq_none_iff :
    firstPlace text pos rules = pure none ↔ ∀ r ∈ rules, matchAt text pos r = pure none := by
  induction rules with
  | nil => exact iff_of_true rfl (List.forall_mem_nil _)
  | cons first rules ih =>
    rw [firstPlace, Run.bind_eq_pure_iff, List.forall_mem_cons]
    constructor
    · rintro ⟨hit?, hfirst, h⟩
      cases hit? with
      | none =>
        obtain ⟨found?, hfound, h⟩ := Run.bind_eq_pure_iff.mp h
        obtain rfl := Option.map_eq_none_iff.mp (Run.pure_inj h)
        exact ⟨hfirst, ih.mp hfound⟩
      | some hit => cases Run.pure_inj h
    · rintro ⟨hfirst, hrules⟩
      exact ⟨none, hfirst, by rw [ih.mpr hrules]; rfl⟩

theorem firstHit_eq_some_iff {r : TableRule} {hit : Hit} :
    firstHit text pos rules = pure (some (r, hit)) ↔
      ∃ index, firstPlace text pos rules = pure (some (index, r, hit)) := by
  rw [firstHit_eq_firstPlace, map_eq_pure_bind, Run.bind_eq_pure_iff]
  constructor
  · rintro ⟨found?, hfound, h⟩
    obtain ⟨⟨index, found⟩, rfl, rfl⟩ := Option.map_eq_some_iff.mp (Run.pure_inj h)
    exact ⟨index, hfound⟩
  · rintro ⟨index, h⟩
    exact ⟨_, h, rfl⟩

/-- What a rule matches is not empty. -/
theorem lt_stop_of_matchAt {r : TableRule} {hit : Hit}
    (h : matchAt text pos r = pure (some hit)) : pos < hit.stop := by
  unfold matchAt at h
  split at h
  · cases h
  · have hsome := (Option.filter_eq_some_iff.mp (Run.pure_inj h)).2
    exact of_decide_eq_true hsome

theorem mem_of_firstHit {r : TableRule} {hit : Hit}
    (h : firstHit text pos rules = pure (some (r, hit))) : r ∈ rules := by
  obtain ⟨_, h⟩ := firstHit_eq_some_iff.mp h
  exact List.mem_of_getElem? (firstPlace_eq_some_iff.mp h).1

end

theorem getElem?_of_stateAt {t : Table} {id : StateId} {current : TableState}
    (h : stateAt t id = pure current) : t.states[id]? = some current := by
  unfold stateAt at h
  split at h
  · rename_i hs
    exact Run.pure_inj h ▸ hs
  · cases h

theorem Context.current_mem {x : Context} {id : StateId} (h : x.current = pure id) :
    id ∈ x.stack := by
  unfold Context.current at h
  split at h
  · rename_i hlast
    exact Run.pure_inj h ▸ List.mem_of_getLast? hlast
  · cases h

/-! ## 3. Giving tokens changes nothing else -/

/-- The second machine is the first one with more tokens waiting. -/
def Machine.Gives (m m' : Machine) : Prop := ∃ tokens, m' = m.add tokens

namespace Machine.Gives

theorem refl (m : Machine) : m.Gives m := ⟨[], m.add_nil.symm⟩

theorem trans {a b c : Machine} (h : a.Gives b) (h' : b.Gives c) : a.Gives c := by
  obtain ⟨first, rfl⟩ := h
  obtain ⟨second, rfl⟩ := h'
  exact ⟨first ++ second, a.add_add first second⟩

end Machine.Gives

variable {t : Table} {m m' : Machine}

theorem gives_of_emit {kind : Kind} {start stop : Nat} (h : m.emit kind start stop = pure m') :
    m.Gives m' := by
  unfold Machine.emit at h
  split at h
  · obtain ⟨piece, -, h⟩ := Run.bind_eq_pure_iff.mp h
    obtain ⟨token, -, h⟩ := Run.bind_eq_pure_iff.mp h
    exact ⟨[token], (Run.pure_inj h).symm⟩
  · exact Run.pure_inj h ▸ .refl m

theorem gives_of_subLex {gap : Kind} {state : StateId} {start stop : Nat}
    (h : subLex t gap m state start stop = pure m') : m.Gives m' := by
  rw [subLex] at h
  split at h
  · exact gives_of_emit h
  · obtain ⟨piece, -, h⟩ := Run.bind_eq_pure_iff.mp h
    obtain ⟨tokens, -, h⟩ := Run.bind_eq_pure_iff.mp h
    exact ⟨tokens, (Run.pure_inj h).symm⟩

theorem gives_of_emitGroup {gap : Kind} {start stop : Nat} {action : GroupAction StateId}
    (h : emitGroup t gap m start stop action = pure m') : m.Gives m' := by
  rw [Machine.emitGroup.eq_def] at h
  cases action with
  | token kind => exact gives_of_emit h
  | «using» state => exact gives_of_subLex h
  | skip => exact Run.pure_inj h ▸ .refl m

theorem gives_of_emitGroups {gap : Kind} {hit : Hit} {cursor index : Nat}
    {actions : List (GroupAction StateId)}
    (h : emitGroups t gap hit m cursor index actions = pure m') : m.Gives m' := by
  induction actions generalizing m cursor index with
  | nil =>
    rw [emitGroups] at h
    exact gives_of_emit h
  | cons action actions ih =>
    rw [emitGroups] at h
    split at h
    · exact ih h
    · obtain ⟨m₁, h₁, h⟩ := Run.bind_eq_pure_iff.mp h
      obtain ⟨m₂, h₂, h⟩ := Run.bind_eq_pure_iff.mp h
      exact ((gives_of_emit h₁).trans (gives_of_emitGroup h₂)).trans (ih h)

/-- **A match is dealt with by giving tokens**, be they its own or those of nested lexers. -/
theorem gives_of_emitMatch {hit : Hit} {pos : Nat} {action : Action StateId}
    (h : emitMatch t hit m pos action = pure m') : m.Gives m' := by
  rw [Machine.emitMatch.eq_def] at h
  cases action with
  | token kind => exact gives_of_emit h
  | groups actions gap => exact gives_of_emitGroups h

/-! ## 4. The context moves on by itself -/

namespace Context

/-- Behind the character at the cursor. -/
def skipCharacter (text : List Char) (x : Context) : Run Context := do
  let rest ← slice text x.pos (byteLength text)
  return { x with pos := x.pos + (rest.head?.map Char.utf8Size).getD 1 }

/-- Where no rule matches. -/
def fallBack (text : List Char) (x : Context) : Option (Transition StateId) → Run Context
  | none => x.skipCharacter text
  | some f =>
    if shrinks x.stack f then x.apply f
    else if x.fallbackAt ≠ some x.pos then ({ x with fallbackAt := some x.pos } : Context).apply f
    else x.skipCharacter text

/-- Where a step leads to. -/
def advance (t : Table) (text : List Char) (x : Context) : Run Context := do
  let state ← stateAt t (← x.current)
  match ← firstHit text x.pos state.rules with
  | none => x.fallBack text state.fallback
  | some (r, hit) => return { ← x.applyOptional r.transition with pos := hit.stop }

/-- A rule leads to the end of its match. -/
theorem advance_of_firstHit {text : List Char} {x x' : Context} {id : StateId}
    {state : TableState} {r : TableRule} {hit : Hit} (hid : x.current = pure id)
    (hstate : stateAt t id = pure state)
    (hfirst : firstHit text x.pos state.rules = pure (some (r, hit)))
    (hx : x.applyOptional r.transition = pure x') :
    x.advance t text = pure { x' with pos := hit.stop } := by
  unfold advance
  simp only [hid, hstate, hfirst, hx, pure_bind]

end Context

theorem exists_of_emitError (h : m.emitError = pure m') :
    ∃ x tokens, m.context.skipCharacter m.text = pure x ∧
      m' = { m.add tokens with context := x } := by
  unfold Machine.emitError at h
  obtain ⟨rest, hrest, h⟩ := Run.bind_eq_pure_iff.mp h
  obtain ⟨m₁, hm₁, h⟩ := Run.bind_eq_pure_iff.mp h
  obtain ⟨tokens, rfl⟩ := gives_of_emit hm₁
  exact ⟨_, tokens, Run.bind_eq_pure_iff.mpr ⟨rest, hrest, rfl⟩, (Run.pure_inj h).symm⟩

theorem exists_of_fallBack {f? : Option (Transition StateId)} (h : m.fallBack f? = pure m') :
    ∃ x tokens, m.context.fallBack m.text f? = pure x ∧
      m' = { m.add tokens with context := x } := by
  cases f? with
  | none => exact exists_of_emitError h
  | some f =>
    have happlied : ∀ {x : Context}, (do return { m with context := ← x.apply f }) = pure m' →
        ∃ x' tokens, x.apply f = pure x' ∧ m' = { m.add tokens with context := x' } := by
      intro x h
      obtain ⟨x', hx, h⟩ := Run.bind_eq_pure_iff.mp h
      refine ⟨x', [], hx, ?_⟩
      rw [m.add_nil]
      exact (Run.pure_inj h).symm
    unfold Machine.fallBack at h
    unfold Context.fallBack
    dsimp only at h ⊢
    by_cases hshrinks : shrinks m.context.stack f = true
    · rw [if_pos hshrinks] at h ⊢
      exact happlied h
    · rw [if_neg hshrinks] at h ⊢
      by_cases hat : m.context.fallbackAt ≠ some m.context.pos
      · rw [if_pos hat] at h ⊢
        exact happlied h
      · rw [if_neg hat] at h ⊢
        exact exists_of_emitError h

/-- **All that a step does**: it gives tokens and moves the context on. -/
theorem exists_of_step (h : step t m = pure m') :
    ∃ x tokens, m.context.advance t m.text = pure x ∧
      m' = { m.add tokens with context := x } := by
  rw [step] at h
  obtain ⟨id, hid, h⟩ := Run.bind_eq_pure_iff.mp h
  obtain ⟨state, hstate, h⟩ := Run.bind_eq_pure_iff.mp h
  obtain ⟨hit?, hhit, h⟩ := Run.bind_eq_pure_iff.mp h
  cases hit? with
  | none =>
    unfold Context.advance
    simp only [hid, hstate, hhit, pure_bind]
    exact exists_of_fallBack h
  | some found =>
    obtain ⟨r, hit⟩ := found
    obtain ⟨m₁, hm₁, h⟩ := Run.bind_eq_pure_iff.mp h
    obtain ⟨tokens, rfl⟩ := gives_of_emitMatch hm₁
    obtain ⟨x, hx, h⟩ := Run.bind_eq_pure_iff.mp h
    exact ⟨_, tokens, Context.advance_of_firstHit hid hstate hhit hx, (Run.pure_inj h).symm⟩

/-! ## 5. What waits does not matter -/

/-- The machine with more tokens waiting, before those that wait already. -/
def Machine.behind (m : Machine) (first : List Token) : Machine :=
  { m with pending := first ++ m.pending }

theorem Machine.behind_add (m : Machine) (first tokens : List Token) :
    (m.behind first).add tokens = (m.add tokens).behind first := by
  simp [Machine.behind, Machine.add]

section Behind

variable (first : List Token)

theorem emit_behind (m : Machine) (kind : Kind) (start stop : Nat) :
    (m.behind first).emit kind start stop = (·.behind first) <$> m.emit kind start stop := by
  unfold Machine.emit
  split
  · simp only [map_bind, map_pure, Machine.behind_add]
    rfl
  · rfl

theorem subLex_behind (gap : Kind) (m : Machine) (state : StateId) (start stop : Nat) :
    subLex t gap (m.behind first) state start stop =
      (·.behind first) <$> subLex t gap m state start stop := by
  have hdepth : (m.behind first).depth = m.depth := rfl
  rw [subLex, subLex, hdepth]
  by_cases h : maxSubLexDepth ≤ m.depth
  · rw [if_pos h, if_pos h]
    exact emit_behind first m gap start stop
  · rw [if_neg h, if_neg h]
    simp only [map_bind, map_pure, Machine.behind_add]
    rfl

theorem emitGroup_behind (gap : Kind) (m : Machine) (start stop : Nat)
    (action : GroupAction StateId) :
    emitGroup t gap (m.behind first) start stop action =
      (·.behind first) <$> emitGroup t gap m start stop action := by
  rw [Machine.emitGroup.eq_def, Machine.emitGroup.eq_def t gap m]
  cases action with
  | token kind => exact emit_behind first m kind start stop
  | «using» state => exact subLex_behind first gap m state start stop
  | skip => rfl

/-- **The groups of a match give the same tokens whatever waits.** -/
theorem emitGroups_behind (gap : Kind) (hit : Hit) (m : Machine) (cursor index : Nat)
    (actions : List (GroupAction StateId)) :
    emitGroups t gap hit (m.behind first) cursor index actions =
      (·.behind first) <$> emitGroups t gap hit m cursor index actions := by
  induction actions generalizing m cursor index with
  | nil =>
    rw [emitGroups, emitGroups]
    exact emit_behind first m gap cursor hit.stop
  | cons action actions ih =>
    rw [emitGroups, emitGroups]
    cases hit.handled? cursor index action with
    | none => exact ih m cursor (index + 1)
    | some span =>
      dsimp only
      rw [emit_behind, map_bind, bind_map_left]
      refine bind_congr fun m₁ => ?_
      rw [emitGroup_behind, map_bind, bind_map_left]
      exact bind_congr fun m₂ => ih m₂ span.2 (index + 1)

/-- **Tokens that wait come first, and the others are as they would be.** -/
theorem collect_behind (m : Machine) :
    collect t (m.behind first) = (first ++ ·) <$> collect t m := by
  induction first with
  | nil => simp [Machine.behind]
  | cons token first ih =>
    have hnext : next t (m.behind (token :: first)) = pure (some token, m.behind first) := by
      rw [next]
      rfl
    rw [collect, hnext, pure_bind]
    dsimp only
    rw [ih]
    simp

end Behind

end Bytewise

end Highlighter
