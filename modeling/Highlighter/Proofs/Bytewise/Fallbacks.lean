/-
# Fallbacks at one place

A `History` lists the steps of a run, each with its deed: a rule is applied, the fallback of the
state is, or a character becomes an error token.

The machine remembers only where a fallback that does not shrink the stack was applied last.  That
is enough to keep order at every place of the text: **the steps there are fallbacks, at most one of
which does not shrink the stack, and then a single step that consumes something**
(`fallback_discipline`).

* One step keeps the order, and that the memory is right about the present place (`Tidy.step`).
* A step has its reasons (`Justified`).  There is an error only where the fallback of the state does
  not shrink the stack, and where one such fallback, of this state or another, was applied already.
* A run can always go on to the end of the text (`Reaches.exists_end`), so that in the end each
  place that was come to is left.
-/
import Highlighter.Proofs.Bytewise.Deeds
import Highlighter.Proofs.Bytewise.Steering

namespace Highlighter

namespace Bytewise

/-! ## 1. Histories -/

/-- A step that was taken: what the machine was before and after it, and what the step did. -/
structure Record where
  before : Machine
  deed : Deed
  after : Machine

namespace Record

/-- Where in the text the step was taken. -/
def place (x : Record) : Nat := x.before.context.pos

def IsFallback (x : Record) : Prop := ∃ f, x.deed = .fallback f

/-- The step left the place behind, and it was no fallback. -/
def Consumes (x : Record) : Prop := ¬ x.IsFallback ∧ x.place < x.after.context.pos

/-- The step was a fallback that popped states, and the stack was smaller after it. -/
def shrinks (x : Record) : Bool :=
  match x.deed with
  | .fallback (.pop _) => x.after.context.stack.length < x.before.context.stack.length
  | _ => false

end Record

/-- A run up to a moment, with the steps that were taken, the oldest one first. -/
inductive History (t : Table) (mc : Machine) : List Record → Machine → Prop where
  | start : History t mc [] mc
  | step {log : List Record} {m m' : Machine} {deed : Deed} (h : History t mc log m)
      (hp : m.pending = []) (hr : m.context.pos < byteLength m.text)
      (hm : act t m = pure (deed, m')) : History t mc (log ++ [⟨m, deed, m'⟩]) m'
  | give {log : List Record} {m : Machine} {token : Token} {pending : List Token}
      (h : History t mc log m) (hp : m.pending = token :: pending) :
      History t mc log { m with pending }

/-- The steps of a history that were taken at a place. -/
def stepsAt (place : Nat) (log : List Record) : List Record := log.filter (·.place == place)

theorem stepsAt_append (place : Nat) (log log' : List Record) :
    stepsAt place (log ++ log') = stepsAt place log ++ stepsAt place log' :=
  List.filter_append ..

theorem stepsAt_singleton_self (x : Record) : stepsAt x.place [x] = [x] := by
  simp [stepsAt]

theorem stepsAt_singleton_of_ne {x : Record} {place : Nat} (h : place ≠ x.place) :
    stepsAt place [x] = [] := by
  simp [stepsAt, Ne.symm h]

section

variable {t : Table} {mc m m' : Machine} {n : Nat} {returned : List Token} {log : List Record}

theorem History.exists_reaches (h : History t mc log m) :
    ∃ returned, Reaches t mc log.length returned m := by
  induction h with
  | start => exact ⟨[], .start⟩
  | step _ hp hr hm ih =>
    obtain ⟨returned, h⟩ := ih
    refine ⟨returned, ?_⟩
    rw [List.length_append, List.length_singleton]
    refine h.step hp hr ?_
    rw [step_eq_act, hm]
    rfl
  | give _ hp ih =>
    obtain ⟨returned, h⟩ := ih
    exact ⟨_, h.give hp⟩

/-- **A history goes on with the run.** -/
theorem History.exists_append (hlog : History t mc log m) (h : Reaches t m n returned m') :
    ∃ more, more.length = n ∧ History t mc (log ++ more) m' := by
  induction h with
  | start => exact ⟨[], rfl, by rwa [List.append_nil]⟩
  | @step _ _ m₁ m₂ _ hp hr hm ih =>
    obtain ⟨more, hlen, hmore⟩ := ih
    rw [step_eq_act, map_eq_pure_bind] at hm
    obtain ⟨⟨deed, m₂'⟩, hact, hm⟩ := Run.bind_eq_pure_iff.mp hm
    obtain rfl : m₂' = m₂ := Run.pure_inj hm
    refine ⟨more ++ [⟨m₁, deed, m₂'⟩], ?_, ?_⟩
    · rw [List.length_append, hlen, List.length_singleton]
    · rw [← List.append_assoc]
      exact hmore.step hp hr hact
  | give _ hp ih =>
    obtain ⟨more, hlen, hmore⟩ := ih
    exact ⟨more, hlen, hmore.give hp⟩

end

/-! ## 2. Order at every place -/

/-- Fallbacks at one place: at most one of them does not shrink the stack. -/
structure Fallbacks (steps : List Record) : Prop where
  fallback : ∀ x ∈ steps, x.IsFallback
  once : steps.countP (fun x => !x.shrinks) ≤ 1

/-- The steps at a place, with the cursor at `pos`. -/
inductive AtPlace (pos place : Nat) : List Record → Prop where
  /-- The cursor was never there, or has just come there. -/
  | untouched : AtPlace pos place []
  /-- The cursor is there. -/
  | waiting {steps : List Record} (h : place = pos) (hf : Fallbacks steps) : AtPlace pos place steps
  /-- The cursor was there and has left. -/
  | left {fallbacks : List Record} {last : Record} (h : place < pos) (hf : Fallbacks fallbacks)
      (hlast : last.Consumes) : AtPlace pos place (fallbacks ++ [last])

/-- The order at all places, and what the machine remembers of the present one. -/
structure Tidy (log : List Record) (m : Machine) : Prop where
  places : ∀ place, AtPlace m.context.pos place (stepsAt place log)
  /-- The machine knows if a fallback that does not shrink the stack was applied here. -/
  memory : m.context.fallbackAt = some m.context.pos ↔
    ∃ x ∈ stepsAt m.context.pos log, x.shrinks = false
  behind : ∀ p, m.context.fallbackAt = some p → p ≤ m.context.pos

theorem tidy_start (state : StateId) (text : List Char) (base depth : Nat) :
    Tidy [] (.start state text base depth) :=
  ⟨fun _ => .untouched, iff_of_false (fun h => by cases h) (fun ⟨_, h, _⟩ => by cases h),
    fun _ h => by cases h⟩

section

variable {log : List Record} {m : Machine} {x : Record}

theorem Tidy.fallbacks (h : Tidy log m) : Fallbacks (stepsAt m.context.pos log) := by
  have hhere := h.places m.context.pos
  generalize stepsAt m.context.pos log = steps at hhere ⊢
  cases hhere with
  | untouched => exact ⟨List.forall_mem_nil _, Nat.zero_le 1⟩
  | waiting _ hf => exact hf
  | left hlt => exact absurd hlt (Nat.lt_irrefl _)

/-- Nothing has been done beyond the cursor. -/
theorem Tidy.stepsAt_ahead (h : Tidy log m) {place : Nat} (hlt : m.context.pos < place) :
    stepsAt place log = [] := by
  have hthere := h.places place
  generalize stepsAt place log = steps at hthere ⊢
  cases hthere with
  | untouched => rfl
  | waiting heq => omega
  | left hlt' => omega

/-- **A step that consumes something leaves the place** in order. -/
theorem Tidy.consume (h : Tidy log m) (hbefore : x.before = m) (hx : x.Consumes)
    (hmemory : x.after.context.fallbackAt = m.context.fallbackAt) :
    Tidy (log ++ [x]) x.after := by
  have hplace : x.place = m.context.pos := hbefore ▸ rfl
  have hlt : m.context.pos < x.after.context.pos := hplace ▸ hx.2
  have hother : ∀ place, place ≠ m.context.pos →
      stepsAt place (log ++ [x]) = stepsAt place log := by
    intro place hne
    rw [stepsAt_append, stepsAt_singleton_of_ne (hplace ▸ hne), List.append_nil]
  refine ⟨fun place => ?_, ?_, fun p hp => ?_⟩
  · by_cases hhere : place = m.context.pos
    · subst hhere
      rw [stepsAt_append, ← hplace, stepsAt_singleton_self, hplace]
      exact .left hlt h.fallbacks hx
    · have hthere := h.places place
      rw [hother place hhere]
      generalize stepsAt place log = steps at hthere ⊢
      cases hthere with
      | untouched => exact .untouched
      | waiting heq => exact absurd heq hhere
      | left hlt' hf hlast => exact .left (Nat.lt_trans hlt' hlt) hf hlast
  · -- The memory is of an earlier place, and nothing has been done at the new one.
    rw [hother _ (Nat.ne_of_gt hlt), h.stepsAt_ahead hlt]
    refine iff_of_false (fun hat => ?_) fun ⟨_, hmem, _⟩ => by cases hmem
    exact absurd (h.behind _ (hmemory ▸ hat)) (Nat.not_le_of_lt hlt)
  · exact Nat.le_of_lt (Nat.lt_of_le_of_lt (h.behind p (hmemory ▸ hp)) hlt)

/-- **A fallback keeps the order**, if it shrinks the stack or is the first one here that does not,
which the machine remembers then. -/
theorem Tidy.fallback (h : Tidy log m) (hbefore : x.before = m) (hx : x.IsFallback)
    (hpos : x.after.context.pos = m.context.pos)
    (hmemory : (x.shrinks = true ∧ x.after.context.fallbackAt = m.context.fallbackAt) ∨
      (x.shrinks = false ∧ m.context.fallbackAt ≠ some m.context.pos ∧
        x.after.context.fallbackAt = some m.context.pos)) :
    Tidy (log ++ [x]) x.after := by
  have hplace : x.place = m.context.pos := hbefore ▸ rfl
  have hhere : stepsAt m.context.pos (log ++ [x]) = stepsAt m.context.pos log ++ [x] := by
    rw [stepsAt_append, ← hplace, stepsAt_singleton_self]
  refine ⟨fun place => ?_, ?_, fun p hp => ?_⟩
  · rw [hpos]
    by_cases heq : place = m.context.pos
    · subst heq
      rw [hhere]
      refine .waiting rfl ⟨?_, ?_⟩
      · exact List.forall_mem_append.mpr ⟨h.fallbacks.fallback, List.forall_mem_singleton.mpr hx⟩
      · rw [List.countP_append, List.countP_singleton]
        rcases hmemory with ⟨hshrinks, -⟩ | ⟨hshrinks, hat, -⟩
        · rw [hshrinks]
          exact h.fallbacks.once
        · have hzero : (stepsAt m.context.pos log).countP (fun x => !x.shrinks) = 0 := by
            refine List.countP_eq_zero.mpr fun y hy hgrows => hat (h.memory.mpr ⟨y, hy, ?_⟩)
            exact (Bool.not_eq_true' _).mp hgrows
          rw [hzero, hshrinks]
          exact Nat.le_refl 1
    · rw [stepsAt_append, stepsAt_singleton_of_ne (hplace ▸ heq), List.append_nil]
      exact h.places place
  · rw [hpos, hhere]
    rcases hmemory with ⟨hshrinks, hat⟩ | ⟨hshrinks, -, hat⟩
    · rw [hat, h.memory]
      constructor
      · rintro ⟨y, hy, hgrows⟩
        exact ⟨y, List.mem_append_left _ hy, hgrows⟩
      · rintro ⟨y, hy, hgrows⟩
        rcases List.mem_append.mp hy with hy | hy
        · exact ⟨y, hy, hgrows⟩
        · obtain rfl := List.mem_singleton.mp hy
          cases hshrinks.symm.trans hgrows
    · refine iff_of_true hat ⟨x, List.mem_append_right _ (List.mem_singleton_self x), hshrinks⟩
  · rw [hpos]
    rcases hmemory with ⟨-, hat⟩ | ⟨-, -, hat⟩
    · exact h.behind p (hat ▸ hp)
    · exact Nat.le_of_eq (Option.some.inj (hp.symm.trans hat))

end

/-! ## 3. Reasons -/

/-- Why a step was taken, and what it did, given the steps before it. -/
inductive Justified (t : Table) (earlier : List Record) (x : Record) : Prop where
  /-- The first rule that matches fires. -/
  | rule {state : TableState} {r : TableRule} {hit : Hit} {index : Nat}
      (hdeed : x.deed = .rule index r hit) (htop : x.before.Top t state)
      (hr : state.rules[index]? = some r)
      (hhit : matchAt x.before.text x.place r = pure (some hit))
      (hfirst : ∀ r' ∈ state.rules.take index, matchAt x.before.text x.place r' = pure none)
      (hpos : x.after.context.pos = hit.stop)
  /-- No rule matches, and the state has a fallback. -/
  | fallback {state : TableState} {f : Transition StateId} (hdeed : x.deed = .fallback f)
      (htop : x.before.Top t state) (hf : state.fallback = some f)
      (hmiss : ∀ r ∈ state.rules, matchAt x.before.text x.place r = pure none)
      (hpos : x.after.context.pos = x.place)
  /-- No rule matches, and there is no fallback, or it does not shrink the stack and a fallback that
  does not was applied here before. -/
  | error {state : TableState} {before rest : List Char} {c : Char} (hdeed : x.deed = .error)
      (htop : x.before.Top t state)
      (hmiss : ∀ r ∈ state.rules, matchAt x.before.text x.place r = pure none)
      (hspent : state.fallback = none ∨ ∃ f, state.fallback = some f ∧
        (∀ count, f = .pop count → x.before.context.stack.length ≤ 1) ∧
        ∃ y ∈ earlier, y.place = x.place ∧ y.IsFallback ∧ y.shrinks = false)
      (htext : split? x.before.text x.place = some (before, c :: rest))
      (hafter : x.after = { x.before.add [⟨.error, [c], x.before.base + x.place⟩] with
        context := { x.before.context with pos := x.place + c.utf8Size } })

/-- Transitions leave the place and the memory alone. -/
theorem Context.apply_keeps {x x' : Context} {f : Transition StateId} (h : x.apply f = pure x') :
    x'.pos = x.pos ∧ x'.fallbackAt = x.fallbackAt := by
  cases f with
  | push states => exact Run.pure_inj h ▸ ⟨rfl, rfl⟩
  | pushCurrent =>
    obtain ⟨top, -, h⟩ := Run.bind_eq_pure_iff.mp h
    exact Run.pure_inj h ▸ ⟨rfl, rfl⟩
  | pop count => exact Run.pure_inj h ▸ ⟨rfl, rfl⟩
  | replace state =>
    rw [Context.apply] at h
    split at h
    · cases h
    · exact Run.pure_inj h ▸ ⟨rfl, rfl⟩

theorem Context.fallbackAt_applyOptional {x x' : Context} {f? : Option (Transition StateId)}
    (h : x.applyOptional f? = pure x') : x'.fallbackAt = x.fallbackAt := by
  cases f? with
  | none => exact Run.pure_inj h ▸ rfl
  | some f => exact (Context.apply_keeps h).2

section

variable {t : Table} {log : List Record} {m m' : Machine} {deed : Deed}

/-- A fallback that takes states from the stack leaves a smaller one. -/
theorem shrinks_of_apply {f : Transition StateId} {x x' : Context} (hpops : f ≠ .pop 0)
    (hstack : x.stack = m.context.stack) (hx : x.apply f = pure x') :
    (⟨m, .fallback f, { m with context := x' }⟩ : Record).shrinks = shrinks m.context.stack f := by
  cases f with
  | push states => rfl
  | pushCurrent => rfl
  | replace state => rfl
  | pop count =>
    have hlength : x'.stack.length = min (max (m.context.stack.length - count) 1)
        m.context.stack.length := by
      obtain rfl := Run.pure_inj hx
      rw [List.length_take, hstack]
    have hcount : count ≠ 0 := fun h => hpops (h ▸ rfl)
    refine decide_eq_decide.mpr ?_
    dsimp only
    omega

theorem text_of_emitError {before rest : List Char} (htext : m.text = before ++ rest)
    (hpos : byteLength before = m.context.pos) (hr : m.context.pos < byteLength m.text)
    (hm : m.emitError = pure m') :
    ∃ c rest, split? m.text m.context.pos = some (before, c :: rest) ∧
      m' = { m.add [⟨.error, [c], m.base + m.context.pos⟩] with
        context := { m.context with pos := m.context.pos + c.utf8Size } } := by
  have hrest : rest ≠ [] := by
    rintro rfl
    rw [htext, List.append_nil, hpos] at hr
    exact Nat.lt_irrefl _ hr
  obtain ⟨c, rest, rfl⟩ := List.exists_cons_of_ne_nil hrest
  refine ⟨c, rest, split?_eq_some_iff.mpr ⟨htext, hpos⟩, ?_⟩
  exact Run.pure_inj (hm.symm.trans (emitError_eq htext hpos hrest))

/-- **A step keeps the order and has its reasons.** -/
theorem Tidy.step (ht : t.Closed) (h : Tidy log m) {before rest : List Char}
    (htext : m.text = before ++ rest) (hpos : byteLength before = m.context.pos)
    (hr : m.context.pos < byteLength m.text) (hm : act t m = pure (deed, m')) :
    Tidy (log ++ [⟨m, deed, m'⟩]) m' ∧ Justified t log ⟨m, deed, m'⟩ := by
  obtain ⟨state, htop, hacts⟩ := exists_acts hm
  have hpops : ∀ f, state.fallback = some f → f ≠ .pop 0 := by
    obtain ⟨id, -, hstate⟩ := htop
    have hmem := List.mem_of_getElem? (getElem?_of_stateAt hstate)
    exact fun f hf => (ht.fallbacks state hmem f hf).pops
  cases hacts with
  | @rule index r hit x tokens hhit hx =>
    obtain ⟨hrule, hmatch, hfirst⟩ := firstPlace_eq_some_iff.mp hhit
    have hmemory := Context.fallbackAt_applyOptional hx
    exact ⟨h.consume rfl ⟨fun ⟨f, hf⟩ => (by cases hf), lt_stop_of_matchAt hmatch⟩ hmemory,
      .rule rfl htop hrule hmatch hfirst rfl⟩
  | @shrink f x hmiss hf hshrinks hx =>
    obtain ⟨hplace, hmemory⟩ := Context.apply_keeps hx
    have hrecord := shrinks_of_apply (m := m) (hpops f hf) rfl hx
    refine ⟨h.fallback rfl ⟨f, rfl⟩ hplace (Or.inl ⟨hrecord.trans hshrinks, hmemory⟩), ?_⟩
    exact .fallback rfl htop hf (firstPlace_eq_none_iff.mp hmiss) hplace
  | @grow f x hmiss hf hshrinks hat hx =>
    obtain ⟨hplace, hmemory⟩ := Context.apply_keeps hx
    have hrecord := shrinks_of_apply (m := m)
      (x := { m.context with fallbackAt := some m.context.pos }) (hpops f hf) rfl hx
    refine ⟨h.fallback rfl ⟨f, rfl⟩ hplace (Or.inr ⟨hrecord.trans hshrinks, hat, hmemory⟩), ?_⟩
    exact .fallback rfl htop hf (firstPlace_eq_none_iff.mp hmiss) hplace
  | error hmiss hf hm =>
    obtain ⟨c, rest, hsplit, rfl⟩ := text_of_emitError htext hpos hr hm
    refine ⟨h.consume rfl ⟨fun ⟨f, hf⟩ => (by cases hf), Nat.lt_add_of_pos_right c.utf8Size_pos⟩ rfl,
      .error rfl htop (firstPlace_eq_none_iff.mp hmiss) ?_ hsplit rfl⟩
    cases hfallback : state.fallback with
    | none => exact Or.inl rfl
    | some f =>
      obtain ⟨hshrinks, hat⟩ := hf f hfallback
      obtain ⟨y, hy, hgrows⟩ := h.memory.mp hat
      refine Or.inr ⟨f, rfl, ?_, y, (List.mem_filter.mp hy).1, ?_, h.fallbacks.fallback y hy,
        hgrows⟩
      · rintro count rfl
        exact Nat.not_lt.mp (of_decide_eq_false hshrinks)
      · exact eq_of_beq (List.mem_filter.mp hy).2

end

/-! ## 4. Runs -/

section

variable {t : Table} (ht : t.Closed) {state : StateId} (hs : state < t.states.length)
variable {text : List Char} {base depth : Nat} (hd : depth ≤ maxSubLexDepth)

include ht hs hd

/-- **A run keeps the order**, and every step of it has its reasons. -/
theorem History.tidy {log : List Record} {m : Machine}
    (h : History t (.start state text base depth) log m) :
    Tidy log m ∧ ∀ earlier x later, log = earlier ++ x :: later → Justified t earlier x := by
  induction h with
  | start =>
    refine ⟨tidy_start state text base depth, fun earlier x later hlog => ?_⟩
    exact absurd hlog.symm (List.append_ne_nil_of_right_ne_nil _ (List.cons_ne_nil x later))
  | @step log m₁ m₂ deed h₁ _ hr hm ih =>
    obtain ⟨htidy, hreasons⟩ := ih
    obtain ⟨returned, hreach⟩ := h₁.exists_reaches
    obtain ⟨s, hrep, -⟩ := exists_stream ht hs hd hreach
    obtain ⟨before, htext, hpos, -⟩ := hrep.context.place
    obtain ⟨htidy', hreason⟩ := htidy.step ht htext hpos hr hm
    refine ⟨htidy', fun earlier x later hlog => ?_⟩
    -- The step is the last one, or it is one of the steps before.
    rcases List.eq_nil_or_concat later with rfl | ⟨later, last, rfl⟩
    · obtain ⟨rfl, hx⟩ := List.append_inj' hlog rfl
      exact List.singleton_inj.mp hx ▸ hreason
    · rw [List.concat_eq_append, ← List.cons_append, ← List.append_assoc] at hlog
      exact hreasons earlier x later (List.append_inj' hlog rfl).1
  | give _ _ ih => exact ⟨⟨ih.1.places, ih.1.memory, ih.1.behind⟩, ih.2⟩

/-- **A run can go on to the end of the text.** -/
theorem Reaches.exists_end {n : Nat} {returned : List Token} {m : Machine}
    (h : Reaches t (.start state text base depth) n returned m) :
    ∃ more returned' m', Reaches t m more returned' m' ∧ m'.context.pos = byteLength text := by
  -- By induction on what is left of the bound for all steps.
  induction hleft : (t.growth + 1) * (2 * text.length + 1) + 1 - n generalizing n returned m with
  | zero =>
    obtain ⟨s, -, -, hn⟩ := Bytewise.exists_stream ht hs hd h
    have hdepth : 1 ≤ s.cursor.potential t.growth :=
      Nat.le_trans (Nat.succ_pos _) (Nat.le_add_left _ _)
    omega
  | succ left ih =>
    obtain ⟨s, hrep, -⟩ := Bytewise.exists_stream ht hs hd h
    have hle : m.context.pos ≤ byteLength text := by
      rw [← show m.text = text from h.text_eq, hrep.byteLength_text]
      exact Nat.le_add_right _ _
    rcases Nat.eq_or_lt_of_le hle with hend | hlt
    · exact ⟨0, [], m, .start, hend⟩
    · have hr : m.context.pos < byteLength m.text := by
        rwa [show m.text = text from h.text_eq]
      obtain ⟨m₁, hm₁⟩ := h.drain.exists_step ht hs hd hr
      obtain ⟨more, returned', m', hreach, hend⟩ := ih (h.drain.step rfl hr hm₁) (by omega)
      have hnext : Reaches t m 1 m.pending m₁ := (Reaches.start.drain).step rfl hr hm₁
      exact ⟨_, _, m', hnext.trans hreach, hend⟩

end

/-- **Fallbacks keep to their order.**  In every run of a compiled table, from any state through any
text:

* the steps at a place are fallbacks, at most one of which does not shrink the stack, and once the
  place is left a single step behind them, which consumed something;
* a rule fires if it is the first one that matches, a fallback is applied only where no rule of the
  state matches, and there is an error only where no rule matches and the state has no fallback, or
  one that does not shrink the stack where such a fallback was applied at the same place before;
* the run can go on to the end of the text. -/
theorem fallback_discipline {g : Grammar} {t : Table} (h : g.compile = .ok t) {state : StateId}
    (hs : state < t.states.length) (text : List Char) (base : Nat) {depth : Nat}
    (hd : depth ≤ maxSubLexDepth) :
    (∀ n returned m, Reaches t (.start state text base depth) n returned m →
      ∃ log, log.length = n ∧ History t (.start state text base depth) log m) ∧
    ∀ log m, History t (.start state text base depth) log m →
      (∀ place, AtPlace m.context.pos place (stepsAt place log)) ∧
      (∀ earlier x later, log = earlier ++ x :: later → Justified t earlier x) ∧
      ∃ more m', History t (.start state text base depth) (log ++ more) m' ∧
        m'.context.pos = byteLength text := by
  have ht := Grammar.closed_of_compile h
  refine ⟨fun n returned m hm => History.start.exists_append hm, fun log m hlog => ?_⟩
  obtain ⟨htidy, hreasons⟩ := hlog.tidy ht hs hd
  refine ⟨htidy.places, hreasons, ?_⟩
  obtain ⟨returned, hreach⟩ := hlog.exists_reaches
  obtain ⟨n, returned', m', hrest, hend⟩ := hreach.exists_end ht hs hd
  obtain ⟨more, -, hmore⟩ := hlog.exists_append hrest
  exact ⟨more, m', hmore, hend⟩

/-- No rule takes the `c`, and the fallback makes the stack grow. -/
theorem fallback_discipline_nesting :
    nesting.compile = .ok nestingTable ∧ 0 < nestingTable.states.length ∧ 0 ≤ maxSubLexDepth ∧
      ∃ log m, History nestingTable (.start 0 ['c']) log m ∧ m.context.pos = 1 ∧
        (∀ place, AtPlace 1 place (stepsAt place log)) ∧
        ∀ earlier x later, log = earlier ++ x :: later → Justified nestingTable earlier x := by
  have hroot : 0 < nestingTable.states.length := by decide
  obtain ⟨-, hruns⟩ :=
    fallback_discipline compile_nesting hroot ['c'] 0 (Nat.zero_le maxSubLexDepth)
  obtain ⟨-, -, log, m, hlog, hend⟩ := hruns [] _ .start
  obtain ⟨hplaces, hreasons, -⟩ := hruns _ m hlog
  have hpos : m.context.pos = 1 := hend
  rw [hpos] at hplaces
  exact ⟨compile_nesting, hroot, Nat.zero_le _, log, m, hlog, hpos, hplaces, hreasons⟩

end Bytewise

end Highlighter
