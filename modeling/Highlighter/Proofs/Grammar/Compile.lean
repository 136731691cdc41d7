/-
# Which grammars compile, and to what

`Grammar.compile` goes through a grammar in several passes and stops at the first thing wrong.
`Grammar.Valid` lists what is asked of a grammar without an order, and `Grammar.CompilesTo` says of
a table that it is the grammar with its includes written out, its patterns read and its names
replaced by positions.

* Each pass succeeds just if its part of the requirements holds, and then gives what the relation
  says: references (`resolveTransition_eq_ok_iff`, `resolveAction_eq_ok_iff`), rules
  (`compileRule_eq_ok_iff`) and states (`compileState_eq_ok_iff`).
* **`compile` accepts just the valid grammars**, and the table is the only one that the grammar
  compiles to (`compile_iff_valid`).
-/
import Highlighter.Grammar.Compile
import Highlighter.Proofs.Grammar.Trails
import Mathlib.Data.List.Nodup

namespace Highlighter

namespace Grammar

/-! ## 1. What is asked of a grammar -/

variable (g : Grammar)

/-- The transition names declared states only, and pops something if it pops. -/
structure ValidTransition (t : Transition String) : Prop where
  declared : ∀ x ∈ t.targets, g.Declares x
  pops : t ≠ .pop 0

/-- The pattern of the rule can be read and built, and it fits the rule. -/
structure ValidPattern (r : Rule) (p : Pattern) : Prop where
  parses : Pattern.parse g.flags.patternFlags r.pattern = .ok p
  builds : p.weight ≤ Pattern.maxWeight
  consumes : p.minLength ≠ some 0
  groups : ∀ actions gap, r.action = .groups actions gap → actions.length ≤ p.groupCount

/-- What is asked of a rule. -/
structure ValidRule (r : Rule) : Prop where
  pattern : ∃ p, g.ValidPattern r p
  action : ∀ x ∈ r.action.targets, g.Declares x
  transition : ∀ t, r.transition = some t → g.ValidTransition t

/-- What is asked of a grammar. -/
structure Valid : Prop where
  distinct : (g.states.map (·.name)).Nodup
  initial : g.Declares g.initial
  includes : ∀ s ∈ g.states, g.Includable s.name
  rules : ∀ s ∈ g.states, ∀ r, Entry.rule r ∈ s.entries → g.ValidRule r
  fallbacks : ∀ s ∈ g.states, ∀ t, s.fallback = some t → g.ValidTransition t

/-! ## 2. What a grammar compiles to -/

/-- The position of the declaration of a name. -/
def position (name : String) : StateId := g.states.findIdx (·.name == name)

/-- The rule with its names replaced by positions. -/
structure RuleCompilesTo (r : Rule) (c : TableRule) : Prop where
  source : c.source = r.pattern
  pattern : Pattern.parse g.flags.patternFlags r.pattern = .ok c.pattern
  action : c.action = r.action.map g.position
  transition : c.transition = r.transition.map (Transition.map g.position)

/-- The state with its includes written out and its names replaced by positions. -/
structure StateCompilesTo (s : State) (c : TableState) : Prop where
  name : c.name = s.name
  rules : ∃ rules, g.Expansion s.entries rules ∧ List.Forall₂ g.RuleCompilesTo rules c.rules
  fallback : c.fallback = s.fallback.map (Transition.map g.position)

/-- The table of a grammar.  A name stands for the position of its declaration, and a position for
the name declared there. -/
structure CompilesTo (t : Table) : Prop where
  name : t.name = g.name
  initial : t.initial = g.position g.initial
  states : List.Forall₂ g.StateCompilesTo g.states t.states
  ids : ∀ i s, g.states[i]? = some s →
    g.position s.name = i ∧ t.stateId? s.name = some i ∧ t.stateName i = s.name

variable {g}

theorem ValidRule.exists_compilesTo {r : Rule} (h : g.ValidRule r) :
    ∃ c, g.RuleCompilesTo r c := by
  obtain ⟨p, hp⟩ := h.pattern
  exact ⟨⟨r.pattern, p, r.action.map g.position, r.transition.map (Transition.map g.position)⟩,
    rfl, hp.parses, rfl, rfl⟩

/-- A rule whose pattern has the least length 0 is refused. -/
theorem ValidRule.minLength_ne_zero {r : Rule} {c : TableRule} (h : g.ValidRule r)
    (hc : g.RuleCompilesTo r c) : c.pattern.minLength ≠ some 0 := by
  obtain ⟨p, hp⟩ := h.pattern
  obtain rfl := Except.ok.inj (hc.pattern.symm.trans hp.parses)
  exact hp.consumes

theorem RuleCompilesTo.unique : Relator.RightUnique g.RuleCompilesTo := by
  rintro r ⟨source, pattern, action, transition⟩ ⟨source', pattern', action', transition'⟩ h h'
  obtain rfl : source = source' := h.source.trans h'.source.symm
  obtain rfl : pattern = pattern' := Except.ok.inj (h.pattern.symm.trans h'.pattern)
  obtain rfl : action = action' := h.action.trans h'.action.symm
  obtain rfl : transition = transition' := h.transition.trans h'.transition.symm
  rfl

theorem StateCompilesTo.unique : Relator.RightUnique g.StateCompilesTo := by
  rintro s ⟨name, rules, fallback⟩ ⟨name', rules', fallback'⟩ h h'
  obtain rfl : name = name' := h.name.trans h'.name.symm
  obtain rfl : fallback = fallback' := h.fallback.trans h'.fallback.symm
  obtain ⟨flat, hflat, hrules⟩ := h.rules
  obtain ⟨flat', hflat', hrules'⟩ := h'.rules
  obtain rfl := hflat.unique hflat'
  obtain rfl : rules = rules' := RuleCompilesTo.unique.forall₂ hrules hrules'
  rfl

/-- A grammar compiles to one table at most. -/
theorem CompilesTo.unique {t t' : Table} (h : g.CompilesTo t) (h' : g.CompilesTo t') :
    t = t' := by
  obtain ⟨name, initial, states⟩ := t
  obtain ⟨name', initial', states'⟩ := t'
  obtain rfl : name = name' := h.name.trans h'.name.symm
  obtain rfl : initial = initial' := h.initial.trans h'.initial.symm
  obtain rfl : states = states' := StateCompilesTo.unique.forall₂ h.states h'.states
  rfl

/-! ## 3. References -/

theorem position_lt_iff {name : String} :
    g.position name < g.states.length ↔ g.Declares name := by
  unfold position Declares
  rw [List.findIdx_lt_length]
  simp

theorem findIdx?_eq_some_iff {name : String} {id : StateId} :
    g.states.findIdx? (·.name == name) = some id ↔ g.Declares name ∧ id = g.position name := by
  rw [List.findIdx?_eq_some_iff_findIdx_eq, ← position_lt_iff]
  unfold position
  constructor
  · rintro ⟨hlt, rfl⟩
    exact ⟨hlt, rfl⟩
  · rintro ⟨hlt, rfl⟩
    exact ⟨hlt, rfl⟩

section References

variable {source : String} {index : Nat}

theorem resolve_eq_ok_iff (target : String) (id : StateId) :
    g.resolve source target = .ok id ↔ g.Declares target ∧ id = g.position target := by
  rw [← findIdx?_eq_some_iff]
  unfold resolve
  split
  · rename_i i hi
    rw [hi]
    exact ⟨fun h => congrArg some (Except.ok.inj h),
      fun h => congrArg Except.ok (Option.some.inj h)⟩
  · rename_i hnone
    rw [hnone]
    exact ⟨fun h => (by cases h), fun h => (by cases h)⟩

theorem resolveTransition_eq_ok_iff {t : Transition String} {c : Transition StateId} :
    g.resolveTransition source index t = .ok c ↔
      g.ValidTransition t ∧ c = t.map g.position := by
  unfold resolveTransition
  split
  · rename_i targets
    rw [Checks.bind_eq_ok_iff]
    simp only [Checks.mapM_eq_ok_map resolve_eq_ok_iff]
    constructor
    · rintro ⟨ids, ⟨hdecl, rfl⟩, h⟩
      exact ⟨⟨hdecl, by simp⟩, (Except.ok.inj h).symm⟩
    · rintro ⟨hvalid, rfl⟩
      exact ⟨_, ⟨hvalid.declared, rfl⟩, rfl⟩
  · exact Checks.ok_eq_ok_iff ⟨by simp [Transition.targets], by simp⟩
  · constructor
    · intro h
      cases h
    · rintro ⟨hvalid, -⟩
      exact absurd rfl hvalid.pops
  · rename_i n hn
    exact Checks.ok_eq_ok_iff ⟨by simp [Transition.targets], by simpa using hn⟩
  · rename_i target
    rw [Checks.bind_eq_ok_iff]
    simp only [resolve_eq_ok_iff]
    constructor
    · rintro ⟨id, ⟨hdecl, rfl⟩, h⟩
      exact ⟨⟨by simpa [Transition.targets] using hdecl, by simp⟩, (Except.ok.inj h).symm⟩
    · rintro ⟨hvalid, rfl⟩
      exact ⟨_, ⟨hvalid.declared target (List.mem_singleton_self _), rfl⟩, rfl⟩

theorem resolveGroup_eq_ok_iff (a : GroupAction String) (c : GroupAction StateId) :
    g.resolveGroup source a = .ok c ↔
      (∀ x, a.target? = some x → g.Declares x) ∧ c = a.map g.position := by
  cases a with
  | token kind => exact Checks.ok_eq_ok_iff fun _ hx => by cases hx
  | «using» target =>
    rw [resolveGroup, Checks.bind_eq_ok_iff]
    simp only [resolve_eq_ok_iff]
    constructor
    · rintro ⟨id, ⟨hdecl, rfl⟩, h⟩
      exact ⟨fun x hx => Option.some.inj hx ▸ hdecl, (Except.ok.inj h).symm⟩
    · rintro ⟨hdecl, rfl⟩
      exact ⟨_, ⟨hdecl target rfl, rfl⟩, rfl⟩
  | skip => exact Checks.ok_eq_ok_iff fun _ hx => by cases hx

theorem resolveAction_eq_ok_iff {a : Action String} {c : Action StateId} :
    g.resolveAction source a = .ok c ↔
      (∀ x ∈ a.targets, g.Declares x) ∧ c = a.map g.position := by
  cases a with
  | token kind => exact Checks.ok_eq_ok_iff fun _ hx => by cases hx
  | groups actions gap =>
    rw [resolveAction, Checks.bind_eq_ok_iff]
    simp only [Checks.mapM_eq_ok_map resolveGroup_eq_ok_iff]
    constructor
    · rintro ⟨ids, ⟨hdecl, rfl⟩, h⟩
      refine ⟨fun x hx => ?_, (Except.ok.inj h).symm⟩
      obtain ⟨a, ha, hx⟩ := List.mem_filterMap.mp hx
      exact hdecl a ha x hx
    · rintro ⟨hdecl, rfl⟩
      exact ⟨_, ⟨fun a ha x hx => hdecl x (List.mem_filterMap.mpr ⟨a, ha, hx⟩), rfl⟩, rfl⟩

theorem resolveOptional_eq_ok_iff {t : Option (Transition String)}
    {c : Option (Transition StateId)} :
    g.resolveOptional source index t = .ok c ↔
      (∀ x, t = some x → g.ValidTransition x) ∧ c = t.map (Transition.map g.position) := by
  cases t with
  | none => exact Checks.ok_eq_ok_iff fun _ hx => by cases hx
  | some t =>
    rw [resolveOptional, Checks.bind_eq_ok_iff]
    simp only [resolveTransition_eq_ok_iff]
    constructor
    · rintro ⟨id, ⟨hvalid, rfl⟩, h⟩
      exact ⟨fun x hx => Option.some.inj hx ▸ hvalid, (Except.ok.inj h).symm⟩
    · rintro ⟨hvalid, rfl⟩
      exact ⟨_, ⟨hvalid t rfl, rfl⟩, rfl⟩

end References

/-! ## 4. Rules -/

section Rules

variable {state : String} {index : Nat}

/-- Reading the pattern of a rule checks all of it but its size. -/
theorem compilePattern_eq_ok_iff {r : Rule} {p : Pattern} :
    g.compilePattern state index r = .ok p ↔
      Pattern.parse g.flags.patternFlags r.pattern = .ok p ∧ p.minLength ≠ some 0 ∧
        ∀ actions gap, r.action = .groups actions gap → actions.length ≤ p.groupCount := by
  unfold compilePattern
  cases hparse : Pattern.parse g.flags.patternFlags r.pattern with
  | error reason => simp
  | ok pattern =>
    by_cases hmin : pattern.minLength = some 0
    · simp only [hmin, if_true]
      constructor
      · intro h
        cases h
      · rintro ⟨h, hne, -⟩
        cases h
        exact absurd hmin hne
    · simp only [hmin, if_false]
      cases haction : r.action with
      | token kind =>
        simp only [Except.ok.injEq]
        constructor
        · rintro rfl
          exact ⟨rfl, hmin, fun _ _ h => by cases h⟩
        · exact fun h => h.1
      | groups actions gap =>
        by_cases hcount : pattern.groupCount < actions.length
        · simp only [hcount, if_true]
          constructor
          · intro h
            cases h
          · rintro ⟨h, -, hle⟩
            cases h
            have := hle actions gap rfl
            omega
        · simp only [hcount, if_false, Except.ok.injEq]
          constructor
          · rintro rfl
            refine ⟨rfl, hmin, fun _ _ h => ?_⟩
            cases h
            omega
          · exact fun h => h.1

theorem compileRule_eq_ok_iff {r : Rule} {c : TableRule} :
    g.compileRule state index r = .ok c ↔ g.ValidRule r ∧ g.RuleCompilesTo r c := by
  unfold compileRule
  rw [Checks.bind_eq_ok_iff]
  simp only [compilePattern_eq_ok_iff]
  constructor
  · rintro ⟨p, ⟨hparse, hmin, hgroups⟩, h⟩
    by_cases hweight : Pattern.maxWeight < p.weight
    · rw [if_pos hweight] at h
      cases h
    · rw [if_neg hweight] at h
      simp only [Checks.bind_eq_ok_iff] at h
      obtain ⟨action, haction, transition, htransition, h⟩ := h
      obtain ⟨hadecl, rfl⟩ := resolveAction_eq_ok_iff.mp haction
      obtain ⟨hvalid, rfl⟩ := resolveOptional_eq_ok_iff.mp htransition
      obtain rfl := Except.ok.inj h
      exact ⟨⟨⟨p, hparse, Nat.le_of_not_lt hweight, hmin, hgroups⟩, hadecl, hvalid⟩,
        ⟨rfl, hparse, rfl, rfl⟩⟩
  · rintro ⟨⟨⟨p, hp⟩, hadecl, hvalid⟩, hc⟩
    refine ⟨p, ⟨hp.parses, hp.consumes, hp.groups⟩, ?_⟩
    rw [if_neg (Nat.not_lt_of_le hp.builds)]
    have hp' : g.RuleCompilesTo r ⟨r.pattern, p, r.action.map g.position,
        r.transition.map (Transition.map g.position)⟩ := ⟨rfl, hp.parses, rfl, rfl⟩
    obtain rfl := RuleCompilesTo.unique hp' hc
    simp only [Checks.bind_eq_ok_iff]
    exact ⟨_, resolveAction_eq_ok_iff.mpr ⟨hadecl, rfl⟩, _,
      resolveOptional_eq_ok_iff.mpr ⟨hvalid, rfl⟩, rfl⟩

theorem compileRules_eq_ok_iff {rules : List Rule} {cs : List TableRule} :
    g.compileRules state index rules = .ok cs ↔
      (∀ r ∈ rules, g.ValidRule r) ∧ List.Forall₂ g.RuleCompilesTo rules cs := by
  induction rules generalizing index cs with
  | nil =>
    rw [List.forall₂_nil_left_iff]
    constructor
    · intro h
      exact ⟨fun _ hr => (by cases hr), (Except.ok.inj h).symm⟩
    · rintro ⟨-, rfl⟩
      rfl
  | cons r rules ih =>
    unfold compileRules
    simp only [Checks.bind_eq_ok_iff, compileRule_eq_ok_iff, ih, List.forall₂_cons_left_iff,
      List.forall_mem_cons]
    constructor
    · rintro ⟨c, ⟨hr, hc⟩, cs', ⟨hrules, hcs⟩, h⟩
      exact ⟨⟨hr, hrules⟩, c, cs', hc, hcs, (Except.ok.inj h).symm⟩
    · rintro ⟨⟨hr, hrules⟩, c, cs', hc, hcs, rfl⟩
      exact ⟨c, ⟨hr, hc⟩, cs', ⟨hrules, hcs⟩, rfl⟩

/-- The compiled rules of a list, from those of its first part and of the others. -/
theorem compileRules_split (count : Nat) {rules : List Rule} {compiled : List TableRule}
    (hfirst : g.compileRules state index (rules.take count) = .ok (compiled.take count))
    (hothers : g.compileRules state index (rules.drop count) = .ok (compiled.drop count)) :
    g.compileRules state index rules = .ok compiled := by
  obtain ⟨hvalid, hto⟩ := compileRules_eq_ok_iff.mp hfirst
  obtain ⟨hvalid', hto'⟩ := compileRules_eq_ok_iff.mp hothers
  have happ : List.Forall₂ g.RuleCompilesTo (rules.take count ++ rules.drop count)
      (compiled.take count ++ compiled.drop count) := List.rel_append hto hto'
  rw [List.take_append_drop, List.take_append_drop] at happ
  refine compileRules_eq_ok_iff.mpr ⟨fun r hr => ?_, happ⟩
  rw [← List.take_append_drop count rules] at hr
  exact (List.mem_append.mp hr).elim (hvalid r) (hvalid' r)

end Rules

/-! ## 5. States -/

theorem compileState_eq_ok_iff {s : State} {c : TableState} :
    g.compileState s = .ok c ↔
      ∃ rules, g.expand? s.name = .ok rules ∧
        ((∀ r ∈ rules, g.ValidRule r) ∧ List.Forall₂ g.RuleCompilesTo rules c.rules) ∧
        (∀ t, s.fallback = some t → g.ValidTransition t) ∧
        c.name = s.name ∧ c.fallback = s.fallback.map (Transition.map g.position) := by
  unfold compileState
  simp only [Checks.bind_eq_ok_iff, compileRules_eq_ok_iff, resolveOptional_eq_ok_iff]
  constructor
  · rintro ⟨rules, hexp, cs, hcs, fallback, ⟨hvalid, rfl⟩, h⟩
    obtain rfl := Except.ok.inj h
    exact ⟨rules, hexp, hcs, hvalid, rfl, rfl⟩
  · rintro ⟨rules, hexp, hcs, hvalid, hname, hfallback⟩
    obtain ⟨name, crules, fallback⟩ := c
    obtain rfl : name = s.name := hname
    obtain rfl : fallback = _ := hfallback
    exact ⟨rules, hexp, crules, hcs, _, ⟨hvalid, rfl⟩, rfl⟩

theorem duplicate?_eq_none_iff {seen names : List String} :
    duplicate? seen names = none ↔ names.Nodup ∧ ∀ n ∈ names, n ∉ seen := by
  induction names generalizing seen with
  | nil => simp [duplicate?]
  | cons name names ih =>
    unfold duplicate?
    by_cases hmem : name ∈ seen
    · simp [hmem]
    · simp only [List.contains_eq_mem, hmem, decide_false, Bool.false_eq_true, if_false, ih,
        List.nodup_cons, List.forall_mem_cons, not_false_eq_true, true_and]
      constructor
      · rintro ⟨hnodup, hseen⟩
        exact ⟨⟨fun h => hseen name h List.mem_cons_self, hnodup⟩,
          fun n hn h => hseen n hn (List.mem_cons_of_mem _ h)⟩
      · rintro ⟨⟨hname, hnodup⟩, hseen⟩
        refine ⟨hnodup, fun n hn h => ?_⟩
        rcases List.mem_cons.mp h with rfl | h
        · exact hname hn
        · exact hseen n hn h

/-- The passes of `compile`. -/
theorem compile_eq_ok_iff {t : Table} :
    g.compile = .ok t ↔
      (g.states.map (·.name)).Nodup ∧ g.Declares g.initial ∧ t.name = g.name ∧
        t.initial = g.position g.initial ∧
        List.Forall₂ (fun s c => g.compileState s = .ok c) g.states t.states := by
  obtain ⟨name, initial, states⟩ := t
  have hnodup : duplicate? [] (g.states.map (·.name)) = none ↔
      (g.states.map (·.name)).Nodup := by simp [duplicate?_eq_none_iff]
  unfold compile
  cases hdup : duplicate? [] (g.states.map (·.name)) with
  | some state =>
    constructor
    · intro h
      cases h
    · rintro ⟨hd, -⟩
      rw [hnodup.mpr hd] at hdup
      cases hdup
  | none =>
    have hd := hnodup.mp hdup
    cases hid : g.states.findIdx? (·.name == g.initial) with
    | none =>
      constructor
      · intro h
        cases h
      · rintro ⟨-, hinit, -⟩
        have := findIdx?_eq_some_iff.mpr ⟨hinit, rfl⟩
        rw [hid] at this
        cases this
    | some id =>
      obtain ⟨hinit, rfl⟩ := findIdx?_eq_some_iff.mp hid
      simp only [Checks.bind_eq_ok_iff, Checks.mapM_eq_ok_iff]
      constructor
      · rintro ⟨cs, hcs, h⟩
        cases Except.ok.inj h
        exact ⟨hd, hinit, rfl, rfl, hcs⟩
      · rintro ⟨-, -, rfl, rfl, hcs⟩
        exact ⟨states, hcs, rfl⟩

/-- With distinct names, a declaration is what its name refers to. -/
theorem state?_name (hd : (g.states.map (·.name)).Nodup) {s : State} (hs : s ∈ g.states) :
    g.state? s.name = some s := by
  obtain ⟨s', hs'⟩ := exists_state?_of_declares ⟨s, hs, rfl⟩
  have hname : s'.name = s.name := by simpa using List.find?_some hs'
  rw [hs', List.inj_on_of_nodup_map hd (List.mem_of_find?_eq_some hs') hs hname]

/-- What a declared state that compiles is like. -/
theorem stateCompilesTo_of_compileState (hd : (g.states.map (·.name)).Nodup) {s : State}
    (hs : s ∈ g.states) {c : TableState} (h : g.compileState s = .ok c) :
    g.StateCompilesTo s c ∧ g.Includable s.name ∧
      (∀ r, Entry.rule r ∈ s.entries → g.ValidRule r) ∧
      ∀ t, s.fallback = some t → g.ValidTransition t := by
  obtain ⟨rules, hexp, ⟨hrules, hcs⟩, hfallback, hname, hc⟩ := compileState_eq_ok_iff.mp h
  obtain ⟨s', hs', hflat⟩ := expansion_of_expand? hexp
  obtain rfl := Option.some.inj ((state?_name hd hs).symm.trans hs')
  exact ⟨⟨hname, ⟨rules, hflat, hcs⟩, hc⟩, exists_expand?_eq_ok_iff.mp ⟨rules, hexp⟩,
    fun r hr => hrules r (hflat.mem_of_mem hr), hfallback⟩

/-- The states of a valid grammar compile. -/
theorem exists_compileState_eq_ok (hv : g.Valid) {s : State} (hs : s ∈ g.states) :
    ∃ c, g.compileState s = .ok c := by
  obtain ⟨rules, hexp⟩ := exists_expand?_eq_ok_iff.mpr (hv.includes s hs)
  obtain ⟨s', hs', hflat⟩ := expansion_of_expand? hexp
  -- Each rule of the expansion is listed by some declared state, which vouches for it.
  have hrules : ∀ r ∈ rules, g.ValidRule r := by
    intro r hr
    rcases hflat.mem_entries hr with h | ⟨s'', hs'', h⟩
    · exact hv.rules s' (List.mem_of_find?_eq_some hs') r h
    · exact hv.rules s'' hs'' r h
  obtain ⟨cs, hcs⟩ := Checks.exists_forall₂ fun r hr => (hrules r hr).exists_compilesTo
  exact ⟨⟨s.name, cs, s.fallback.map (Transition.map g.position)⟩,
    compileState_eq_ok_iff.mpr ⟨rules, hexp, ⟨hrules, hcs⟩, hv.fallbacks s hs, rfl, rfl⟩⟩

/-! ## 6. Grammars -/

section Ids

variable {t : Table} (hd : (g.states.map (·.name)).Nodup)
  (hnames : t.states.map (·.name) = g.states.map (·.name))

include hd in
/-- With distinct names, the position of a declared name is that of its declaration. -/
theorem position_name {i : Nat} {s : State} (hs : g.states[i]? = some s) :
    g.position s.name = i := by
  obtain ⟨hi, rfl⟩ := List.getElem?_eq_some_iff.mp hs
  refine (List.findIdx_eq hi).mpr ⟨by simp, fun j hj => ?_⟩
  have hne := List.pairwise_iff_getElem.mp (List.pairwise_map.mp hd) j i (by omega) hi hj
  simpa using hne

include hnames

/-- A table with the names of a grammar finds them where the grammar declares them. -/
theorem stateId?_eq (name : String) :
    t.stateId? name = g.states.findIdx? (·.name == name) := by
  have h : ∀ {σ : Type} (f : σ → String) (l : List σ),
      l.findIdx? (fun s => f s == name) = (l.map f).findIdx? (· == name) := by
    intro σ f l
    rw [List.findIdx?_map]
    rfl
  rw [Table.stateId?, h TableState.name, hnames, ← h State.name]

theorem stateName_eq {i : Nat} {s : State} (hs : g.states[i]? = some s) :
    t.stateName i = s.name := by
  have h : (t.states.map (·.name))[i]? = some s.name := by
    rw [hnames, List.getElem?_map, hs]
    rfl
  rw [List.getElem?_map] at h
  obtain ⟨c, hc, hname⟩ := Option.map_eq_some_iff.mp h
  rw [Table.stateName, Table.state, hc]
  exact hname

end Ids

theorem map_name_of_forall₂ {l : List State} {cs : List TableState}
    (h : List.Forall₂ g.StateCompilesTo l cs) : cs.map (·.name) = l.map (·.name) := by
  induction h with
  | nil => rfl
  | cons hc _ ih => rw [List.map_cons, List.map_cons, hc.name, ih]

/-- **A grammar that compiles is valid, and this is its table.** -/
theorem valid_and_compilesTo_of_compile {t : Table} (h : g.compile = .ok t) :
    g.Valid ∧ g.CompilesTo t := by
  obtain ⟨hd, hinit, hname, hinitial, hstates⟩ := compile_eq_ok_iff.mp h
  have hall : ∀ s ∈ g.states, ∃ c, g.compileState s = .ok c := by
    intro s hs
    obtain ⟨c, -, hc⟩ := Checks.exists_right_of_mem hstates hs
    exact ⟨c, hc⟩
  have hto : List.Forall₂ g.StateCompilesTo g.states t.states := by
    refine List.forall₂_iff_zip.mpr ⟨hstates.length_eq, fun {s c} hsc => ?_⟩
    have hs := (List.of_mem_zip hsc).1
    exact (stateCompilesTo_of_compileState hd hs (List.forall₂_zip hstates hsc)).1
  refine ⟨⟨hd, hinit, fun s hs => ?_, fun s hs => ?_, fun s hs => ?_⟩,
    ⟨hname, hinitial, hto, fun i s hs => ?_⟩⟩
  · obtain ⟨c, hc⟩ := hall s hs
    exact (stateCompilesTo_of_compileState hd hs hc).2.1
  · obtain ⟨c, hc⟩ := hall s hs
    exact (stateCompilesTo_of_compileState hd hs hc).2.2.1
  · obtain ⟨c, hc⟩ := hall s hs
    exact (stateCompilesTo_of_compileState hd hs hc).2.2.2
  · have hnames := map_name_of_forall₂ hto
    have hpos := position_name hd hs
    refine ⟨hpos, ?_, stateName_eq hnames hs⟩
    rw [stateId?_eq hnames, findIdx?_eq_some_iff]
    exact ⟨⟨s, List.mem_of_getElem? hs, rfl⟩, hpos.symm⟩

/-- A valid grammar compiles. -/
theorem exists_compile_of_valid (hv : g.Valid) : ∃ t, g.compile = .ok t := by
  obtain ⟨cs, hcs⟩ := Checks.exists_forall₂ fun s hs => exists_compileState_eq_ok hv hs
  exact ⟨⟨g.name, g.position g.initial, cs⟩,
    compile_eq_ok_iff.mpr ⟨hv.distinct, hv.initial, rfl, rfl, hcs⟩⟩

/-- A grammar has no table but the one that it compiles to. -/
theorem compile_eq_ok_of_valid {t : Table} (hv : g.Valid) (hto : g.CompilesTo t) :
    g.compile = .ok t := by
  obtain ⟨t', h⟩ := exists_compile_of_valid hv
  obtain rfl := hto.unique (valid_and_compilesTo_of_compile h).2
  exact h

/-- **`compile` accepts just the valid grammars.**  What it gives is the table that the grammar
compiles to, and there is no other such table. -/
theorem compile_iff_valid (g : Grammar) :
    ((∃ t, g.compile = .ok t) ↔ g.Valid) ∧
      ∀ t, g.compile = .ok t ↔ g.Valid ∧ g.CompilesTo t := by
  refine ⟨⟨?_, exists_compile_of_valid⟩, fun t => ⟨valid_and_compilesTo_of_compile, ?_⟩⟩
  · rintro ⟨t, h⟩
    exact (valid_and_compilesTo_of_compile h).1
  · rintro ⟨hv, hto⟩
    obtain ⟨t', h⟩ := exists_compile_of_valid hv
    obtain rfl := hto.unique (valid_and_compilesTo_of_compile h).2
    exact h

end Grammar

/-! ## 7. Compiled tables refer to their own states -/

namespace Table

variable (t : Table)

/-- The transition leads to states of the table, and pops something if it pops. -/
structure ClosedTransition (f : Transition StateId) : Prop where
  targets : ∀ id ∈ f.targets, id < t.states.length
  pops : f ≠ .pop 0

/-- Everything in the table leads to states of it. -/
structure Closed : Prop where
  initial : t.initial < t.states.length
  actions : ∀ s ∈ t.states, ∀ r ∈ s.rules, ∀ id ∈ r.action.targets, id < t.states.length
  transitions : ∀ s ∈ t.states, ∀ r ∈ s.rules, ∀ f, r.transition = some f → t.ClosedTransition f
  fallbacks : ∀ s ∈ t.states, ∀ f, s.fallback = some f → t.ClosedTransition f

end Table

namespace Grammar

variable {g : Grammar} {t : Table}

/-- What is declared of a name has a state in the table. -/
theorem CompilesTo.position_lt (hto : g.CompilesTo t) {name : String} (h : g.Declares name) :
    g.position name < t.states.length := by
  rw [← hto.states.length_eq]
  exact position_lt_iff.mpr h

theorem CompilesTo.closedTransition (hto : g.CompilesTo t) {f : Transition String}
    (h : g.ValidTransition f) : t.ClosedTransition (f.map g.position) := by
  refine ⟨fun id hid => ?_, ?_⟩
  · rw [Transition.targets_map] at hid
    obtain ⟨name, hname, rfl⟩ := List.mem_map.mp hid
    exact hto.position_lt (h.declared name hname)
  · have := h.pops
    cases f <;> simp_all [Transition.map]

theorem CompilesTo.closedOptional (hto : g.CompilesTo t) {f : Option (Transition String)}
    (h : ∀ x, f = some x → g.ValidTransition x) {f' : Transition StateId}
    (hf : f.map (Transition.map g.position) = some f') : t.ClosedTransition f' := by
  obtain ⟨x, hx, rfl⟩ := Option.map_eq_some_iff.mp hf
  exact hto.closedTransition (h x hx)

/-- A rule of a compiled state comes from a valid rule. -/
theorem CompilesTo.exists_rule (hv : g.Valid) (hto : g.CompilesTo t) {c : TableState}
    (hc : c ∈ t.states) {rc : TableRule} (hrc : rc ∈ c.rules) :
    ∃ r, g.ValidRule r ∧ g.RuleCompilesTo r rc := by
  obtain ⟨s, hs, hsc⟩ := Checks.exists_right_of_mem hto.states.flip hc
  obtain ⟨rules, hflat, hrules⟩ := hsc.rules
  obtain ⟨r, hr, hrrc⟩ := Checks.exists_right_of_mem hrules.flip hrc
  refine ⟨r, ?_, hrrc⟩
  rcases hflat.mem_entries hr with h | ⟨s', hs', h⟩
  · exact hv.rules s hs r h
  · exact hv.rules s' hs' r h

/-- **The table of a grammar leads to no states but its own.** -/
theorem closed_of_compile (h : g.compile = .ok t) : t.Closed := by
  obtain ⟨hv, hto⟩ := valid_and_compilesTo_of_compile h
  refine ⟨?_, fun c hc rc hrc id hid => ?_, fun c hc rc hrc f hf => ?_, fun c hc f hf => ?_⟩
  · rw [hto.initial]
    exact hto.position_lt hv.initial
  · obtain ⟨r, hr, hrrc⟩ := hto.exists_rule hv hc hrc
    rw [hrrc.action, Action.targets_map] at hid
    obtain ⟨name, hname, rfl⟩ := List.mem_map.mp hid
    exact hto.position_lt (hr.action name hname)
  · obtain ⟨r, hr, hrrc⟩ := hto.exists_rule hv hc hrc
    rw [hrrc.transition] at hf
    exact hto.closedOptional hr.transition hf
  · obtain ⟨s, hs, hsc⟩ := Checks.exists_right_of_mem hto.states.flip hc
    rw [hsc.fallback] at hf
    exact hto.closedOptional (hv.fallbacks s hs) hf

/-! ## 8. Grammars with the same names -/

section Names

variable {g g' : Grammar} (hnames : g'.states.map (·.name) = g.states.map (·.name))

include hnames

theorem declares_of_names (name : String) : g'.Declares name ↔ g.Declares name := by
  have h : ∀ g : Grammar, g.Declares name ↔ name ∈ g.states.map (·.name) := by
    intro g
    rw [List.mem_map]
    rfl
  rw [h, h, hnames]

theorem position_of_names : g'.position = g.position := by
  funext name
  have h : ∀ g : Grammar, g.position name = (g.states.map (·.name)).findIdx (· == name) := by
    intro g
    rw [List.findIdx_map]
    rfl
  rw [h, h, hnames]

theorem ValidTransition.of_names {f : Transition String} (h : g.ValidTransition f) :
    g'.ValidTransition f :=
  ⟨fun x hx => (declares_of_names hnames x).mpr (h.declared x hx), h.pops⟩

variable (hflags : g'.flags = g.flags)

include hflags

theorem ValidRule.of_names {r : Rule} (h : g.ValidRule r) : g'.ValidRule r := by
  obtain ⟨p, hp⟩ := h.pattern
  refine ⟨⟨p, ?_, hp.builds, hp.consumes, hp.groups⟩, fun x hx => ?_, fun f hf => ?_⟩
  · rw [hflags]
    exact hp.parses
  · exact (declares_of_names hnames x).mpr (h.action x hx)
  · exact (h.transition f hf).of_names hnames

theorem RuleCompilesTo.of_names {r : Rule} {c : TableRule} (h : g.RuleCompilesTo r c) :
    g'.RuleCompilesTo r c := by
  have hpos := position_of_names hnames
  refine ⟨h.source, ?_, ?_, ?_⟩
  · rw [hflags]
    exact h.pattern
  · rw [hpos]
    exact h.action
  · rw [hpos]
    exact h.transition

end Names

end Grammar

end Highlighter
