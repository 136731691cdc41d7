/-
# States that references lead to

`Grammar.reachable` searches a grammar for the states that lexing can come to.

* **Its result is closed** (`mem_reachable_of_refers`): it has the initial state, and with a state
  all states that the state's entries and its fallback refer to.  The search keeps what is still to
  be looked at in a queue, and the invariant is that a reference leads to a state that has been seen
  or waits there.
* The rules of an expansion refer to nothing else, though they come from other states
  (`Expansion.forall_references`), so the table of a grammar leads from such states to such states
  only (`keeps_reachable`).
-/
import Highlighter.Grammar.Reachable
import Highlighter.Proofs.Grammar.Compile

namespace Highlighter

namespace Grammar

variable {g : Grammar}

/-! ## 1. The search -/

/-- The state `a` is declared and refers to the name `b`. -/
def Refers (g : Grammar) (a b : String) : Prop := ∃ s, g.state? a = some s ∧ b ∈ s.references

/-- The first name of the queue counts among the names seen when it is taken. -/
theorem mem_or_mem_of_take {seen queue : List String} {first name : String}
    (h : name ∈ seen ∨ name ∈ first :: queue) : name ∈ first :: seen ∨ name ∈ queue := by
  rw [List.mem_cons] at h ⊢
  exact h.elim (fun h => Or.inl (Or.inr h)) (Or.imp_left Or.inl)

/-- A name that has been seen already adds nothing. -/
theorem mem_or_mem_of_skip {seen queue : List String} {first name : String} (hfirst : first ∈ seen)
    (h : name ∈ seen ∨ name ∈ first :: queue) : name ∈ seen ∨ name ∈ queue := by
  refine (mem_or_mem_of_take h).imp_left fun h => ?_
  rcases List.mem_cons.mp h with rfl | h
  · exact hfirst
  · exact h

theorem explore_nil (g : Grammar) (seen : List String) : g.explore seen [] = seen := by
  rw [explore]

/-- A state that has been seen is not looked at again. -/
theorem explore_of_mem {seen : List String} {name : String} (h : name ∈ seen)
    (queue : List String) : g.explore seen (name :: queue) = g.explore seen queue := by
  rw [explore, if_pos h]

/-- A state that is seen for the first time has its references looked at later. -/
theorem explore_of_state? {seen queue : List String} {name : String} {s : State}
    (hs : g.state? name = some s) (hname : name ∉ seen) :
    g.explore seen (name :: queue) = g.explore (name :: seen) (queue ++ s.references) := by
  rw [explore, if_neg hname]
  split
  · rename_i hnone
    cases hs.symm.trans hnone
  · rename_i s' hs'
    rw [Option.some.inj (hs.symm.trans hs')]

theorem mem_explore {seen queue : List String} {name : String} (h : name ∈ seen ∨ name ∈ queue) :
    name ∈ g.explore seen queue := by
  fun_induction explore g seen queue with
  | case1 seen => exact h.elim id fun h => by cases h
  | case2 seen first queue hfirst ih => exact ih (mem_or_mem_of_skip hfirst h)
  | case3 seen first queue _ _ ih => exact ih (mem_or_mem_of_take h)
  | case4 seen first queue _ s _ ih =>
    exact ih ((mem_or_mem_of_take h).imp_right (List.mem_append_left _))

/-- **What the search finds is closed**, if a reference from what it has seen leads to what it has
seen or to what waits. -/
theorem mem_explore_of_refers {seen queue : List String}
    (hinv : ∀ a ∈ seen, ∀ b, g.Refers a b → b ∈ seen ∨ b ∈ queue) {a b : String}
    (ha : a ∈ g.explore seen queue) (hab : g.Refers a b) : b ∈ g.explore seen queue := by
  fun_induction explore g seen queue with
  | case1 seen => exact (hinv a ha b hab).elim id fun h => by cases h
  | case2 seen first queue hfirst ih =>
    exact ih (fun x hx y hxy => mem_or_mem_of_skip hfirst (hinv x hx y hxy)) ha
  | case3 seen first queue _ hnone ih =>
    refine ih (fun x hx y hxy => ?_) ha
    rcases List.mem_cons.mp hx with rfl | hx
    · obtain ⟨s, hs, -⟩ := hxy
      cases hnone.symm.trans hs
    · exact mem_or_mem_of_take (hinv x hx y hxy)
  | case4 seen first queue _ s hs ih =>
    refine ih (fun x hx y hxy => ?_) ha
    rcases List.mem_cons.mp hx with rfl | hx
    · obtain ⟨s', hs', hy⟩ := hxy
      obtain rfl := Option.some.inj (hs.symm.trans hs')
      exact Or.inr (List.mem_append_right _ hy)
    · exact (mem_or_mem_of_take (hinv x hx y hxy)).imp_right (List.mem_append_left _)

theorem initial_mem_reachable (g : Grammar) : g.initial ∈ g.reachable :=
  mem_explore (Or.inr List.mem_cons_self)

theorem mem_reachable_of_refers {a b : String} (ha : a ∈ g.reachable) (hab : g.Refers a b) :
    b ∈ g.reachable :=
  mem_explore_of_refers (fun _ hx => by cases hx) ha hab

/-! ## 2. Expansions -/

/-- The rules of an expansion refer to states that the entries lead to. -/
theorem Expansion.forall_references {P : String → Prop}
    (hP : ∀ a b, P a → g.Refers a b → P b) {entries : List Entry} {rules : List Rule}
    (h : g.Expansion entries rules) (he : ∀ e ∈ entries, ∀ x ∈ e.references, P x) :
    ∀ r ∈ rules, ∀ x ∈ (Entry.rule r).references, P x := by
  induction h with
  | nil => exact fun _ hr => by cases hr
  | rule r _ ih =>
    obtain ⟨hr, he⟩ := List.forall_mem_cons.mp he
    exact List.forall_mem_cons.mpr ⟨hr, ih he⟩
  | @«include» name s _ _ _ hs _ _ ihpart ih =>
    obtain ⟨hname, he⟩ := List.forall_mem_cons.mp he
    have hstate : P name := hname name (List.mem_singleton_self _)
    refine List.forall_mem_append.mpr ⟨ihpart fun e hmem x hx => ?_, ih he⟩
    exact hP name x hstate
      ⟨s, hs, List.mem_append_left _ (List.mem_flatMap.mpr ⟨e, hmem, hx⟩)⟩

end Grammar

/-! ## 3. Tables -/

/-- From positions with the property, the table leads to positions with the property only. -/
structure Table.Keeps (t : Table) (P : StateId → Prop) : Prop where
  transitions : ∀ id s, P id → t.states[id]? = some s → ∀ r ∈ s.rules, ∀ f, r.transition = some f →
    ∀ x ∈ f.targets, P x
  actions : ∀ id s, P id → t.states[id]? = some s → ∀ r ∈ s.rules, ∀ x ∈ r.action.targets, P x
  fallbacks : ∀ id s, P id → t.states[id]? = some s → ∀ f, s.fallback = some f →
    ∀ x ∈ f.targets, P x

namespace Grammar

variable {g : Grammar} {t : Table}

/-- A state at the position is declared, and the search finds it. -/
def Reached (g : Grammar) (id : StateId) : Prop :=
  ∃ s, g.states[id]? = some s ∧ s.name ∈ g.reachable

/-- A position of a table that stands for a name is one of a state with the name. -/
theorem reached_position {name : String} (hname : name ∈ g.reachable)
    (h : g.position name < g.states.length) : g.Reached (g.position name) := by
  refine ⟨g.states[g.position name], List.getElem?_eq_getElem h, ?_⟩
  have heq : (g.states[g.position name].name == name) = true := List.findIdx_getElem (w := h)
  rwa [eq_of_beq heq]

/-- **A table leads from states that the search finds to such states.** -/
theorem keeps_reachable (h : g.compile = .ok t) : t.Keeps g.Reached := by
  obtain ⟨hv, hto⟩ := valid_and_compilesTo_of_compile h
  have hclosed := closed_of_compile h
  have hlength := hto.states.length_eq
  -- Targets of a compiled state are positions of names that the search finds.
  have htarget : ∀ {names : List String} {x : StateId}, (∀ n ∈ names, n ∈ g.reachable) →
      x ∈ names.map g.position → x < t.states.length → g.Reached x := by
    intro names x hnames hx hlt
    obtain ⟨name, hname, rfl⟩ := List.mem_map.mp hx
    exact reached_position (hnames name hname) (hlength ▸ hlt)
  have hstate : ∀ {id c}, g.Reached id → t.states[id]? = some c →
      ∃ s, g.StateCompilesTo s c ∧ ∀ n ∈ s.references, n ∈ g.reachable := by
    rintro id c ⟨s, hs, hreach⟩ hc
    obtain ⟨s', hs', hsc⟩ := Checks.exists_right_of_getElem? hto.states.flip hc
    obtain rfl := Option.some.inj (hs.symm.trans hs')
    exact ⟨s, hsc, fun n hn => mem_reachable_of_refers hreach
      ⟨s, state?_name hv.distinct (List.mem_of_getElem? hs), hn⟩⟩
  have hrule : ∀ {id c rc}, g.Reached id → t.states[id]? = some c → rc ∈ c.rules →
      ∃ r, g.RuleCompilesTo r rc ∧ ∀ n ∈ (Entry.rule r).references, n ∈ g.reachable := by
    intro id c rc hid hc hrc
    obtain ⟨s, hsc, hrefs⟩ := hstate hid hc
    obtain ⟨rules, hexp, hrules⟩ := hsc.rules
    obtain ⟨r, hr, hrrc⟩ := Checks.exists_right_of_mem hrules.flip hrc
    refine ⟨r, hrrc, hexp.forall_references (fun _ _ => mem_reachable_of_refers)
      (fun e he x hx => hrefs x ?_) r hr⟩
    exact List.mem_append_left _ (List.mem_flatMap.mpr ⟨e, he, hx⟩)
  refine ⟨fun id c hid hc rc hrc f hf x hx => ?_, fun id c hid hc rc hrc x hx => ?_,
    fun id c hid hc f hf x hx => ?_⟩
  · have hlt := (hclosed.transitions c (List.mem_of_getElem? hc) rc hrc f hf).targets x hx
    obtain ⟨r, hrrc, hrefs⟩ := hrule hid hc hrc
    obtain ⟨f', hf', rfl⟩ := Option.map_eq_some_iff.mp (hrrc.transition ▸ hf)
    refine htarget (fun n hn => hrefs n (List.mem_append_left _ ?_))
      (Transition.targets_map g.position f' ▸ hx) hlt
    rw [hf']
    exact hn
  · have hlt := hclosed.actions c (List.mem_of_getElem? hc) rc hrc x hx
    obtain ⟨r, hrrc, hrefs⟩ := hrule hid hc hrc
    rw [hrrc.action, Action.targets_map] at hx
    exact htarget (fun n hn => hrefs n (List.mem_append_right _ hn)) hx hlt
  · have hlt := (hclosed.fallbacks c (List.mem_of_getElem? hc) f hf).targets x hx
    obtain ⟨s, hsc, hrefs⟩ := hstate hid hc
    obtain ⟨f', hf', rfl⟩ := Option.map_eq_some_iff.mp (hsc.fallback ▸ hf)
    refine htarget (fun n hn => hrefs n (List.mem_append_right _ ?_))
      (Transition.targets_map g.position f' ▸ hx) hlt
    rw [hf']
    exact hn

end Grammar

end Highlighter
