/-
# Errors that name a rule

An error of `compile` may name a rule, by its state and its position among the rules of that state
with includes written out (`GrammarError.rule?`).  `compile` goes through the states in order, and
stops at the first thing wrong:

* a list of rules fails at the first rule that does not compile (`exists_of_compileRules`), and what
  the error says is true of that rule (`ruleFault_of_compileRule`);
* so **everything before the rule passes all checks, and the rule itself does what the error
  says** (`rule_at_fault_of_compile`), unless the error is about a fallback that pops nothing.

A fallback is no rule and has no position, and its error names the rule 0 of its state, which may be
fine (`fallback_reported_as_rule`).
-/
import Highlighter.Proofs.Grammar.Compile

namespace Highlighter

/-- The rule that an error names, by its state and its position there. -/
def GrammarError.rule? : GrammarError → Option (String × Nat)
  | invalidPattern state index _ _ => some (state, index)
  | emptyMatch state index _ => some (state, index)
  | groupCountMismatch state index _ _ => some (state, index)
  | zeroPop state index => some (state, index)
  | _ => none

namespace Grammar

/-! ## 1. What an error says of a rule -/

/-- What an error says is true of the rule that it names. -/
inductive RuleFault (g : Grammar) (state : String) (index : Nat) (r : Rule) :
    GrammarError → Prop where
  | unreadable {reason : PatternError}
      (h : Pattern.parse g.flags.patternFlags r.pattern = .error reason) :
      RuleFault g state index r (.invalidPattern state index r.pattern reason)
  | tooLarge {p : Pattern} (hp : Pattern.parse g.flags.patternFlags r.pattern = .ok p)
      (h : Pattern.maxWeight < p.weight) :
      RuleFault g state index r (.invalidPattern state index r.pattern .tooLarge)
  | empty {p : Pattern} (hp : Pattern.parse g.flags.patternFlags r.pattern = .ok p)
      (h : p.minLength = some 0) : RuleFault g state index r (.emptyMatch state index r.pattern)
  | groups {p : Pattern} {actions : List (GroupAction String)} {gap : Kind}
      (hp : Pattern.parse g.flags.patternFlags r.pattern = .ok p)
      (ha : r.action = .groups actions gap) (h : p.groupCount < actions.length) :
      RuleFault g state index r (.groupCountMismatch state index actions.length p.groupCount)
  | zeroPop (h : r.transition = some (.pop 0)) : RuleFault g state index r (.zeroPop state index)

/-- The state passes all checks: its includes, its rules and its fallback. -/
structure ValidState (g : Grammar) (s : State) : Prop where
  includes : g.Includable s.name
  rules : ∀ r ∈ g.expand s.name, g.ValidRule r
  fallback : ∀ t, s.fallback = some t → g.ValidTransition t

variable {g : Grammar} {state : String} {index : Nat} {e : GrammarError}

/-- A state that compiles has passed all checks. -/
theorem validState_of_compileState {s : State} {c : TableState} (h : g.compileState s = .ok c) :
    g.ValidState s := by
  obtain ⟨rules, hexp, ⟨hrules, -⟩, hfallback, -⟩ := compileState_eq_ok_iff.mp h
  refine ⟨exists_expand?_eq_ok_iff.mp ⟨rules, hexp⟩, ?_, hfallback⟩
  rwa [expand_eq_of_expand? hexp]

/-! ## 2. References name no rule, but for a pop of nothing -/

theorem rule?_of_resolve {source target : String} (h : g.resolve source target = .error e) :
    e.rule? = none := by
  unfold resolve at h
  split at h
  · cases h
  · exact Except.error.inj h ▸ rfl

theorem rule?_of_resolveAction {a : Action String} (h : g.resolveAction state a = .error e) :
    e.rule? = none := by
  cases a with
  | token kind => cases h
  | groups actions gap =>
    obtain ⟨x, -, hx⟩ := Checks.exists_error_of_mapM (Checks.map_eq_error h)
    cases x with
    | token kind => cases hx
    | «using» target => exact rule?_of_resolve (Checks.map_eq_error hx)
    | skip => cases hx

/-- **A transition is blamed on a rule only if it pops nothing.** -/
theorem eq_zeroPop_of_resolveTransition {t : Transition String}
    (h : g.resolveTransition state index t = .error e) :
    e.rule? = none ∨ (t = .pop 0 ∧ e = .zeroPop state index) := by
  unfold resolveTransition at h
  split at h
  · obtain ⟨x, -, hx⟩ := Checks.exists_error_of_mapM (Checks.map_eq_error h)
    exact Or.inl (rule?_of_resolve hx)
  · cases h
  · exact Or.inr ⟨rfl, (Except.error.inj h).symm⟩
  · cases h
  · exact Or.inl (rule?_of_resolve (Checks.map_eq_error h))

theorem eq_zeroPop_of_resolveOptional {t : Option (Transition String)}
    (h : g.resolveOptional state index t = .error e) :
    e.rule? = none ∨ (t = some (.pop 0) ∧ e = .zeroPop state index) := by
  cases t with
  | none => cases h
  | some t =>
    refine (eq_zeroPop_of_resolveTransition (Checks.map_eq_error h)).imp_right ?_
    rintro ⟨rfl, rfl⟩
    exact ⟨rfl, rfl⟩

/-! ## 3. Rules -/

theorem ruleFault_of_compilePattern {r : Rule} (h : g.compilePattern state index r = .error e) :
    g.RuleFault state index r e := by
  unfold compilePattern at h
  cases hparse : Pattern.parse g.flags.patternFlags r.pattern with
  | error reason =>
    rw [hparse] at h
    exact Except.error.inj h ▸ .unreadable hparse
  | ok p =>
    rw [hparse] at h
    dsimp only at h
    split at h
    · rename_i hmin
      exact Except.error.inj h ▸ .empty hparse hmin
    · split at h
      · cases h
      · rename_i actions gap haction
        split at h
        · rename_i hcount
          exact Except.error.inj h ▸ .groups hparse haction hcount
        · cases h

/-- **What the error of a rule says is true of the rule**, if the error names one. -/
theorem ruleFault_of_compileRule {r : Rule} (h : g.compileRule state index r = .error e)
    (hrule : e.rule? ≠ none) :
    g.RuleFault state index r e ∧ e.rule? = some (state, index) := by
  have hnamed : ∀ {e : GrammarError}, g.RuleFault state index r e →
      e.rule? = some (state, index) := fun hfault => by cases hfault <;> rfl
  suffices hfault : g.RuleFault state index r e from ⟨hfault, hnamed hfault⟩
  unfold compileRule at h
  rcases Checks.bind_eq_error_iff.mp h with hpattern | ⟨p, hp, h⟩
  · exact ruleFault_of_compilePattern hpattern
  · obtain ⟨hparse, -⟩ := compilePattern_eq_ok_iff.mp hp
    by_cases hweight : Pattern.maxWeight < p.weight
    · rw [if_pos hweight] at h
      exact Except.error.inj h ▸ .tooLarge hparse hweight
    · rw [if_neg hweight] at h
      rcases Checks.bind_eq_error_iff.mp h with haction | ⟨action, -, h⟩
      · exact absurd (rule?_of_resolveAction haction) hrule
      · rcases eq_zeroPop_of_resolveOptional (Checks.map_eq_error h) with hnone | ⟨ht, rfl⟩
        · exact absurd hnone hrule
        · exact .zeroPop ht

/-- **A list of rules fails at the first rule that does not compile**, and the position that is
passed on is the position of that rule. -/
theorem exists_of_compileRules {rules : List Rule}
    (h : g.compileRules state index rules = .error e) :
    ∃ before r after, rules = before ++ r :: after ∧ (∀ r' ∈ before, g.ValidRule r') ∧
      g.compileRule state (index + before.length) r = .error e := by
  induction rules generalizing index with
  | nil => cases h
  | cons r rules ih =>
    unfold compileRules at h
    rcases Checks.bind_eq_error_iff.mp h with hr | ⟨c, hc, h⟩
    · exact ⟨[], r, rules, rfl, List.forall_mem_nil _, hr⟩
    · obtain ⟨before, r', after, rfl, hbefore, hr'⟩ := ih (Checks.map_eq_error h)
      refine ⟨r :: before, r', after, rfl,
        List.forall_mem_cons.mpr ⟨(compileRule_eq_ok_iff.mp hc).1, hbefore⟩, ?_⟩
      rwa [List.length_cons, Nat.add_comm before.length, ← Nat.add_assoc]

/-! ## 4. States -/

/-- **What is wrong with a state whose error names a rule**: the rule, or the fallback. -/
theorem fault_of_compileState {s : State} (hs : g.Declares s.name)
    (h : g.compileState s = .error e) {name : String} (hrule : e.rule? = some (name, index)) :
    s.name = name ∧ g.Includable s.name ∧
      ((∃ r, (g.expand s.name)[index]? = some r ∧ g.RuleFault s.name index r e ∧
          ∀ r' ∈ (g.expand s.name).take index, g.ValidRule r') ∨
        (e = .zeroPop s.name 0 ∧ s.fallback = some (.pop 0) ∧
          ∀ r ∈ g.expand s.name, g.ValidRule r)) := by
  have hne : e.rule? ≠ none := hrule ▸ Option.some_ne_none _
  unfold compileState at h
  rcases Checks.bind_eq_error_iff.mp h with hexp | ⟨rules, hexp, h⟩
  · cases includeFault_of_expand? hs hexp <;> exact absurd rfl hne
  · have hincludable := exists_expand?_eq_ok_iff.mp ⟨rules, hexp⟩
    rw [expand_eq_of_expand? hexp]
    rcases Checks.bind_eq_error_iff.mp h with hrules | ⟨compiled, hrules, h⟩
    · obtain ⟨before, r, after, rfl, hbefore, hr⟩ := exists_of_compileRules hrules
      rw [Nat.zero_add] at hr
      obtain ⟨hfault, hat⟩ := ruleFault_of_compileRule hr hne
      obtain ⟨rfl, rfl⟩ := Prod.mk.inj (Option.some.inj (hat.symm.trans hrule))
      refine ⟨rfl, hincludable, Or.inl ⟨r, by simp, hfault, ?_⟩⟩
      rwa [List.take_left]
    · rcases eq_zeroPop_of_resolveOptional (Checks.map_eq_error h) with hnone | ⟨hf, rfl⟩
      · exact absurd hnone hne
      · obtain ⟨rfl, -⟩ := Prod.mk.inj (Option.some.inj hrule)
        exact ⟨rfl, hincludable, Or.inr ⟨rfl, hf, (compileRules_eq_ok_iff.mp hrules).1⟩⟩

/-! ## 5. Grammars -/

/-- **An error that names a rule is about that rule, or about the fallback of its state.**  The
state is the first one that does not pass all checks.  Either the rule is there and does what the
error says, and every rule before it passes all checks; or the rules of the state pass all checks
and its fallback pops nothing, which is reported as if it were the rule 0. -/
theorem rule_at_fault_of_compile (h : g.compile = .error e) {name : String}
    (hrule : e.rule? = some (name, index)) :
    (g.states.map (·.name)).Nodup ∧
    ∃ before s after, g.states = before ++ s :: after ∧ s.name = name ∧
      (∀ s' ∈ before, g.ValidState s') ∧ g.Includable name ∧
      ((∃ r, (g.expand name)[index]? = some r ∧ g.RuleFault name index r e ∧
          ∀ r' ∈ (g.expand name).take index, g.ValidRule r') ∨
        (e = .zeroPop name 0 ∧ s.fallback = some (.pop 0) ∧
          ∀ r ∈ g.expand name, g.ValidRule r)) := by
  unfold compile at h
  cases hdup : duplicate? [] (g.states.map (·.name)) with
  | some twice =>
    rw [hdup] at h
    obtain rfl := Except.error.inj h
    cases hrule
  | none =>
    refine ⟨(duplicate?_eq_none_iff.mp hdup).1, ?_⟩
    rw [hdup] at h
    cases hid : g.states.findIdx? (·.name == g.initial) with
    | none =>
      rw [hid] at h
      obtain rfl := Except.error.inj h
      cases hrule
    | some initial =>
      rw [hid] at h
      obtain ⟨before, s, after, hstates, hbefore, hs⟩ :=
        Checks.exists_split_of_mapM (Checks.map_eq_error h)
      have hmem : s ∈ g.states := hstates ▸ List.mem_append_right _ List.mem_cons_self
      obtain ⟨rfl, hfault⟩ := fault_of_compileState ⟨s, hmem, rfl⟩ hs hrule
      refine ⟨before, s, after, hstates, rfl, fun s' hs' => ?_, hfault⟩
      obtain ⟨c, hc⟩ := hbefore s' hs'
      exact validState_of_compileState hc

/-- The rule that may match nothing comes behind one that is included. -/
def starred : Grammar where
  name := "starred"
  states := [
    { name := "root", entries := [.rule { pattern := "a", action := .token .name }]
      fallback := some (.pop 1) },
    { name := "words"
      entries := [.include "root", .rule { pattern := "b*", action := .token .text }] }]

theorem rule_at_fault_of_compile_starred :
    starred.compile = .error (.emptyMatch "words" 1 "b*") ∧
      ∃ r, (starred.expand "words")[1]? = some r ∧
        starred.RuleFault "words" 1 r (.emptyMatch "words" 1 "b*") ∧
        ∀ r' ∈ (starred.expand "words").take 1, starred.ValidRule r' := by
  have hcompile : starred.compile = .error (.emptyMatch "words" 1 "b*") := by decide +kernel
  refine ⟨hcompile, ?_⟩
  obtain ⟨-, before, s, after, -, -, -, -, hrule | ⟨hpop, -⟩⟩ :=
    rule_at_fault_of_compile hcompile rfl
  · exact hrule
  · cases hpop

/-- The only rule is fine, and the fallback pops nothing. -/
def stuck : Grammar where
  name := "stuck"
  states := [
    { name := "root", entries := [.rule { pattern := "a", action := .token .name }]
      fallback := some (.pop 0) }]

/-- **A fallback that pops nothing is reported as the rule 0**, which is there and does not do what
the error says. -/
theorem fallback_reported_as_rule :
    stuck.compile = .error (.zeroPop "root" 0) ∧
      (GrammarError.zeroPop "root" 0).rule? = some ("root", 0) ∧
      stuck.expand "root" = [{ pattern := "a", action := .token .name }] ∧
      ¬ ∃ r, (stuck.expand "root")[0]? = some r ∧
        stuck.RuleFault "root" 0 r (.zeroPop "root" 0) := by
  have hexpand : stuck.expand "root" = [{ pattern := "a", action := .token .name }] := by
    decide +kernel
  refine ⟨by decide +kernel, rfl, hexpand, ?_⟩
  rintro ⟨r, hr, hfault⟩
  rw [hexpand] at hr
  obtain rfl := Option.some.inj hr
  cases hfault with
  | zeroPop h => cases h

end Grammar

end Highlighter
