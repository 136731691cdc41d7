/-
# Steps with their deeds

A step does one of three things: a rule is applied, the fallback of the state is applied, or a
character becomes an error token.  `act` is the step with its deed said (`step_eq_act`), and `Acts`
is all that it can do.

Which rule is applied can be told without the step: **it is the first rule of the state on top that
matches at the cursor** (`appliesAt_iff_fires`).
-/
import Highlighter.Proofs.Bytewise.Frames

namespace Highlighter

namespace Bytewise

/-! ## 1. Steps with their deeds -/

/-- What a step does. -/
inductive Deed where
  /-- The rule with the position `index` in the state on top is applied. -/
  | rule (index : Nat) (r : TableRule) (hit : Hit)
  | fallback (f : Transition StateId)
  | error

/-- What is done where no rule matches, and which it was. -/
def Machine.actOnMiss (m : Machine) : Option (Transition StateId) → Run (Deed × Machine)
  | none => return (.error, ← m.emitError)
  | some f =>
    let pos := m.context.pos
    if shrinks m.context.stack f then
      return (.fallback f, { m with context := ← m.context.apply f })
    else if m.context.fallbackAt ≠ some pos then
      return (.fallback f,
        { m with context := ← ({ m.context with fallbackAt := some pos }).apply f })
    else return (.error, ← m.emitError)

/-- One step, and what it did. -/
def act (t : Table) (m : Machine) : Run (Deed × Machine) := do
  let pos := m.context.pos
  let state ← stateAt t (← m.context.current)
  match ← firstPlace m.text pos state.rules with
  | none => m.actOnMiss state.fallback
  | some (index, r, hit) =>
    let m ← emitMatch t hit m pos r.action
    let context ← m.context.applyOptional r.transition
    return (.rule index r hit, { m with context := { context with pos := hit.stop } })

theorem fallBack_eq_actOnMiss (m : Machine) (f? : Option (Transition StateId)) :
    m.fallBack f? = Prod.snd <$> m.actOnMiss f? := by
  cases f? with
  | none => simp [Machine.fallBack, Machine.actOnMiss]
  | some f =>
    unfold Machine.fallBack Machine.actOnMiss
    dsimp only
    split
    · simp
    · split <;> simp

/-- **The step is the same with its deed left out.** -/
theorem step_eq_act (t : Table) (m : Machine) : step t m = Prod.snd <$> act t m := by
  rw [step, act]
  simp only [map_bind, firstHit_eq_firstPlace, bind_map_left]
  refine bind_congr fun id => bind_congr fun state => bind_congr fun found? => ?_
  cases found? with
  | none => exact fallBack_eq_actOnMiss m state.fallback
  | some found => simp

/-! ## 2. What a step can do -/

/-- The state is on top of the stack. -/
def Machine.Top (t : Table) (m : Machine) (state : TableState) : Prop :=
  ∃ id, m.context.current = pure id ∧ stateAt t id = pure state

/-- All that a step can do in a state. -/
inductive Acts (m : Machine) (state : TableState) : Deed → Machine → Prop where
  | rule {index : Nat} {r : TableRule} {hit : Hit} {x : Context} {tokens : List Token}
      (h : firstPlace m.text m.context.pos state.rules = pure (some (index, r, hit)))
      (hx : m.context.applyOptional r.transition = pure x) :
      Acts m state (.rule index r hit) { m.add tokens with context := { x with pos := hit.stop } }
  | shrink {f : Transition StateId} {x : Context}
      (h : firstPlace m.text m.context.pos state.rules = pure none)
      (hf : state.fallback = some f) (hshrinks : shrinks m.context.stack f = true)
      (hx : m.context.apply f = pure x) : Acts m state (.fallback f) { m with context := x }
  | grow {f : Transition StateId} {x : Context}
      (h : firstPlace m.text m.context.pos state.rules = pure none)
      (hf : state.fallback = some f) (hshrinks : shrinks m.context.stack f = false)
      (hat : m.context.fallbackAt ≠ some m.context.pos)
      (hx : ({ m.context with fallbackAt := some m.context.pos } : Context).apply f = pure x) :
      Acts m state (.fallback f) { m with context := x }
  | error {m' : Machine} (h : firstPlace m.text m.context.pos state.rules = pure none)
      (hf : ∀ f, state.fallback = some f →
        shrinks m.context.stack f = false ∧ m.context.fallbackAt = some m.context.pos)
      (hm : m.emitError = pure m') : Acts m state .error m'

section

variable {t : Table} {m m' : Machine} {deed : Deed}

theorem acts_of_actOnMiss {state : TableState}
    (hnone : firstPlace m.text m.context.pos state.rules = pure none)
    (h : m.actOnMiss state.fallback = pure (deed, m')) : Acts m state deed m' := by
  have hfailed : ∀ {x : Run Machine}, (do return (Deed.error, ← x)) = pure (deed, m') →
      deed = .error ∧ x = pure m' := by
    intro x h
    obtain ⟨m₁, hm₁, h⟩ := Run.bind_eq_pure_iff.mp h
    obtain ⟨rfl, rfl⟩ := Prod.mk.inj (Run.pure_inj h)
    exact ⟨rfl, hm₁⟩
  cases hfallback : state.fallback with
  | none =>
    rw [hfallback] at h
    obtain ⟨rfl, hm⟩ := hfailed h
    exact .error hnone (fun f hf => by rw [hfallback] at hf; cases hf) hm
  | some f =>
    rw [hfallback] at h
    have happlied : ∀ {x : Context}, (do
        return (Deed.fallback f, { m with context := ← x.apply f })) = pure (deed, m') →
        deed = .fallback f ∧ ∃ x', x.apply f = pure x' ∧ m' = { m with context := x' } := by
      intro x h
      obtain ⟨x', hx, h⟩ := Run.bind_eq_pure_iff.mp h
      obtain ⟨rfl, rfl⟩ := Prod.mk.inj (Run.pure_inj h)
      exact ⟨rfl, x', hx, rfl⟩
    unfold Machine.actOnMiss at h
    dsimp only at h
    by_cases hshrinks : shrinks m.context.stack f = true
    · rw [if_pos hshrinks] at h
      obtain ⟨rfl, x, hx, rfl⟩ := happlied h
      exact .shrink hnone hfallback hshrinks hx
    · rw [if_neg hshrinks] at h
      have hgrows := Bool.eq_false_iff.mpr hshrinks
      by_cases hat : m.context.fallbackAt ≠ some m.context.pos
      · rw [if_pos hat] at h
        obtain ⟨rfl, x, hx, rfl⟩ := happlied h
        exact .grow hnone hfallback hgrows hat hx
      · rw [if_neg hat] at h
        obtain ⟨rfl, hm⟩ := hfailed h
        refine .error hnone (fun f' hf' => ?_) hm
        obtain rfl := Option.some.inj (hfallback.symm.trans hf')
        exact ⟨hgrows, Decidable.not_not.mp hat⟩

/-- **A step does one of these things**, in the state on top. -/
theorem exists_acts (h : act t m = pure (deed, m')) :
    ∃ state, m.Top t state ∧ Acts m state deed m' := by
  unfold act at h
  obtain ⟨id, hid, h⟩ := Run.bind_eq_pure_iff.mp h
  obtain ⟨state, hstate, h⟩ := Run.bind_eq_pure_iff.mp h
  obtain ⟨hit?, hhit, h⟩ := Run.bind_eq_pure_iff.mp h
  refine ⟨state, ⟨id, hid, hstate⟩, ?_⟩
  cases hit? with
  | none => exact acts_of_actOnMiss hhit h
  | some found =>
    obtain ⟨index, r, hit⟩ := found
    obtain ⟨m₁, hm₁, h⟩ := Run.bind_eq_pure_iff.mp h
    obtain ⟨tokens, rfl⟩ := gives_of_emitMatch hm₁
    obtain ⟨x, hx, h⟩ := Run.bind_eq_pure_iff.mp h
    obtain ⟨rfl, rfl⟩ := Prod.mk.inj (Run.pure_inj h)
    exact .rule hhit hx

end

/-! ## 3. The rule that fires -/

/-- The rule with the position `index` in the state `id` fires: the state is on top, the rule
matches at the cursor, and no rule before it does. -/
def Machine.Fires (t : Table) (m : Machine) (id : StateId) (index : Nat) : Prop :=
  ∃ current r hit, m.context.current = pure id ∧ stateAt t id = pure current ∧
    current.rules[index]? = some r ∧ matchAt m.text m.context.pos r = pure (some hit) ∧
    ∀ r' ∈ current.rules.take index, matchAt m.text m.context.pos r' = pure none

/-- The step that the machine is about to take applies the rule with the position `index` in the
state `id`. -/
def Machine.AppliesAt (t : Table) (m : Machine) (id : StateId) (index : Nat) : Prop :=
  m.context.current = pure id ∧ ∃ r hit m', act t m = pure (.rule index r hit, m')

section

variable {t : Table} {m m' : Machine} {id : StateId} {index : Nat}

/-- A rule that is applied fires. -/
theorem Machine.AppliesAt.fires (h : m.AppliesAt t id index) : m.Fires t id index := by
  obtain ⟨hid, r, hit, m', hact⟩ := h
  obtain ⟨state, ⟨id', hid', hstate⟩, hacts⟩ := exists_acts hact
  obtain rfl := Run.pure_inj (hid.symm.trans hid')
  cases hacts with
  | rule hfirst _ => exact ⟨state, r, hit, hid, hstate, firstPlace_eq_some_iff.mp hfirst⟩

/-- **A step applies the rule with a position just if it fires there.** -/
theorem appliesAt_iff_fires (hm : step t m = pure m') :
    m.AppliesAt t id index ↔ m.Fires t id index := by
  refine ⟨Machine.AppliesAt.fires, ?_⟩
  rintro ⟨current, r, hit, hid, hcurrent, hfirst⟩
  have hfirst := firstPlace_eq_some_iff.mpr hfirst
  rw [step_eq_act, map_eq_pure_bind] at hm
  obtain ⟨⟨deed, m₁⟩, hact, -⟩ := Run.bind_eq_pure_iff.mp hm
  obtain ⟨state, ⟨id', hid', hstate⟩, hacts⟩ := exists_acts hact
  obtain rfl := Run.pure_inj (hid.symm.trans hid')
  obtain rfl := Run.pure_inj (hcurrent.symm.trans hstate)
  refine ⟨hid, r, hit, m₁, ?_⟩
  cases hacts with
  | rule hfound _ =>
    obtain ⟨rfl, rfl, rfl⟩ := Option.some.inj (Run.pure_inj (hfirst.symm.trans hfound))
    exact hact
  | shrink hmiss => cases Run.pure_inj (hfirst.symm.trans hmiss)
  | grow hmiss => cases Run.pure_inj (hfirst.symm.trans hmiss)
  | error hmiss => cases Run.pure_inj (hfirst.symm.trans hmiss)

end

end Bytewise

end Highlighter
