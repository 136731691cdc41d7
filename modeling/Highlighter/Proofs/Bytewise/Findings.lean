/-
# Findings are right about every run

What `Grammar.lint` reports never takes effect, in a machine for a whole input or in any that is
started inside of it for the text of a group (`During`).

* A repeated pattern is one that stands further up already (`eq_of_mem_repeats`), and a step applies
  the first rule that matches (`appliesAt_iff_fires`), so **a rule with the pattern of an earlier
  one never fires** (`not_fires_of_pattern_eq`), and no step applies it.
* The stack has only states that references lead to, from the initial state on: one step keeps
  that (`step_stack`), and so do the steps of a run (`Reaches.stack`) and the lexers inside of it
  (`During.stack`).  So **an unreachable state is on no stack**.
-/
import Highlighter.Grammar.Lint
import Highlighter.Proofs.Bytewise.Deeds
import Highlighter.Proofs.Bytewise.Steering
import Highlighter.Proofs.Grammar.Flattening
import Highlighter.Proofs.Grammar.Reachability

namespace Highlighter

/-! ## 1. Repeated keys -/

/-- An element is reported with an earlier one that has its key. -/
theorem eq_of_mem_repeats {α κ : Type} [BEq κ] [LawfulBEq κ] {key : α → κ} {seen xs : List α}
    {later first : α} (h : (later, first) ∈ repeats key seen xs) :
    key first = key later ∧ ∃ before after, xs = before ++ later :: after ∧
      (first ∈ seen ∨ first ∈ before) := by
  fun_induction repeats key seen xs with
  | case1 => cases h
  | case2 seen x xs found hfound ih =>
    rcases List.mem_cons.mp h with heq | h
    · obtain ⟨rfl, rfl⟩ := Prod.mk.inj heq
      exact ⟨eq_of_beq (List.find?_some hfound :), [], xs, rfl,
        Or.inl (List.mem_of_find?_eq_some hfound)⟩
    · obtain ⟨hkey, before, after, rfl, hfirst⟩ := ih h
      exact ⟨hkey, x :: before, after, rfl, hfirst.imp_right (List.mem_cons_of_mem x)⟩
  | case3 seen x xs hnone ih =>
    obtain ⟨hkey, before, after, rfl, hfirst⟩ := ih h
    refine ⟨hkey, x :: before, after, rfl, ?_⟩
    rcases hfirst with hfirst | hfirst
    · refine (List.mem_cons.mp hfirst).symm.imp_right ?_
      rintro rfl
      exact List.mem_cons_self
    · exact Or.inr (List.mem_cons_of_mem x hfirst)

namespace Grammar

/-- A rule reported for its pattern has the pattern of an earlier rule of its state. -/
theorem pattern_eq_of_mem_lintPatterns {state : String} {rules : List Rule} {f : Finding}
    (h : f ∈ lintPatterns state rules) :
    ∃ index earlier, f = ⟨state, some index, .duplicatePattern earlier⟩ ∧ earlier < index ∧
      ∃ first later, rules[earlier]? = some first ∧ rules[index]? = some later ∧
        first.pattern = later.pattern := by
  obtain ⟨⟨⟨later, index⟩, ⟨first, earlier⟩⟩, hmem, rfl⟩ := List.mem_map.mp h
  obtain ⟨hkey, before, after, heq, hfirst⟩ := eq_of_mem_repeats hmem
  have hbefore := hfirst.resolve_left (List.not_mem_nil)
  -- The position in the list with positions is the position that the list says.
  have hat : ∀ {i : Nat} {r : Rule} {j : Nat}, rules.zipIdx[i]? = some (r, j) →
      rules[i]? = some r ∧ j = i := by
    intro i r j hi
    rw [List.getElem?_zipIdx, Option.map_eq_some_iff] at hi
    obtain ⟨r', hr, heq⟩ := hi
    obtain ⟨rfl, rfl⟩ := Prod.mk.inj heq
    exact ⟨hr, Nat.zero_add i⟩
  obtain ⟨i, hi, hget⟩ := List.getElem_of_mem hbefore
  have hzipLater : rules.zipIdx[before.length]? = some (later, index) := by
    rw [heq, List.getElem?_append_right (Nat.le_refl _), Nat.sub_self]
    rfl
  have hzipFirst : rules.zipIdx[i]? = some (first, earlier) := by
    rw [heq, List.getElem?_append_left hi, List.getElem?_eq_getElem hi, hget]
  obtain ⟨hlater, rfl⟩ := hat hzipLater
  obtain ⟨hfirst, rfl⟩ := hat hzipFirst
  exact ⟨_, _, rfl, hi, first, later, hfirst, hlater, hkey⟩

/-- What a finding says, where it is about states or patterns. -/
theorem of_mem_lint {g : Grammar} {f : Finding} (h : f ∈ g.lint) :
    (f.kind = .unreachableState → f.state ∉ g.reachable) ∧
    ∀ earlier, f.kind = .duplicatePattern earlier → ∃ index, f.rule = some index ∧
      earlier < index ∧ ∃ first later, (g.expand f.state)[earlier]? = some first ∧
        (g.expand f.state)[index]? = some later ∧ first.pattern = later.pattern := by
  rcases List.mem_append.mp h with h | h
  · obtain ⟨s, -, h⟩ := List.mem_flatMap.mp h
    rcases List.mem_append.mp h with h | h
    · obtain ⟨index, earlier, rfl, hlt, hrules⟩ := pattern_eq_of_mem_lintPatterns h
      refine ⟨fun hk => (by cases hk), fun earlier' hk => ?_⟩
      obtain rfl := FindingKind.duplicatePattern.inj hk
      exact ⟨index, rfl, hlt, hrules⟩
    · obtain ⟨⟨later, first⟩, -, rfl⟩ := List.mem_map.mp h
      exact ⟨fun hk => (by cases hk), fun _ hk => (by cases hk)⟩
  · obtain ⟨s, hs, rfl⟩ := List.mem_map.mp h
    refine ⟨fun _ hreach => ?_, fun _ hk => (by cases hk)⟩
    have := (List.mem_filter.mp hs).2
    simp [hreach] at this

end Grammar

namespace Bytewise

/-! ## 2. The rule that fires -/

/-- Where a rule fires, no rule before it matches. -/
theorem Machine.Fires.matchAt_eq_none {t : Table} {m : Machine} {id : StateId} {c : TableState}
    {index earlier : Nat} {first : TableRule} (h : m.Fires t id index)
    (hc : t.states[id]? = some c) (hfirst : c.rules[earlier]? = some first)
    (hlt : earlier < index) : matchAt m.text m.context.pos first = pure none := by
  obtain ⟨current, _, _, -, hcurrent, -, -, hbefore⟩ := h
  obtain rfl := Option.some.inj (hc.symm.trans (getElem?_of_stateAt hcurrent))
  exact hbefore first
    (List.mem_of_getElem? (i := earlier) (by rw [List.getElem?_take_of_lt hlt, hfirst]))

/-- **A rule with the pattern of an earlier one never fires.** -/
theorem not_fires_of_pattern_eq {t : Table} {m : Machine} {id : StateId} {c : TableState}
    (hc : t.states[id]? = some c) {index earlier : Nat} (hlt : earlier < index)
    {first later : TableRule} (hfirst : c.rules[earlier]? = some first)
    (hlater : c.rules[index]? = some later) (hpattern : first.pattern = later.pattern) :
    ¬ m.Fires t id index := by
  intro hfires
  have hnone := hfires.matchAt_eq_none hc hfirst hlt
  obtain ⟨current, r, hit, -, hcurrent, hr, hhit, -⟩ := hfires
  obtain rfl := Option.some.inj (hc.symm.trans (getElem?_of_stateAt hcurrent))
  obtain rfl := Option.some.inj (hlater.symm.trans hr)
  have hsame : matchAt m.text m.context.pos first = matchAt m.text m.context.pos later := by
    unfold matchAt
    rw [hpattern]
  cases Run.pure_inj (hnone.symm.trans (hsame.trans hhit))

/-! ## 3. The states on the stack -/

section

variable {t : Table} {P : StateId → Prop}

/-- A transition puts its targets on the stack, and nothing else that was not there. -/
theorem Context.apply_stack {x x' : Context} {f : Transition StateId}
    (h : ∀ id ∈ x.stack, P id) (hf : ∀ id ∈ f.targets, P id) (hx : x.apply f = pure x') :
    ∀ id ∈ x'.stack, P id := by
  cases f with
  | push states =>
    obtain rfl := Run.pure_inj hx
    exact List.forall_mem_append.mpr ⟨h, hf⟩
  | pushCurrent =>
    obtain ⟨top, htop, hx⟩ := Run.bind_eq_pure_iff.mp hx
    obtain rfl := Run.pure_inj hx
    exact List.forall_mem_append.mpr
      ⟨h, List.forall_mem_singleton.mpr (h top (Context.current_mem htop))⟩
  | pop count =>
    obtain rfl := Run.pure_inj hx
    exact fun id hid => h id (List.mem_of_mem_take hid)
  | replace state =>
    rw [Context.apply] at hx
    split at hx
    · cases hx
    · obtain rfl := Run.pure_inj hx
      exact List.forall_mem_append.mpr ⟨fun id hid => h id (List.mem_of_mem_dropLast hid), hf⟩

theorem Context.skipCharacter_stack {text : List Char} {x x' : Context}
    (hx : x.skipCharacter text = pure x') : x'.stack = x.stack := by
  obtain ⟨rest, -, hx⟩ := Run.bind_eq_pure_iff.mp hx
  exact Run.pure_inj hx ▸ rfl

theorem Context.fallBack_stack {text : List Char} {x x' : Context}
    {f? : Option (Transition StateId)} (h : ∀ id ∈ x.stack, P id)
    (hf : ∀ f, f? = some f → ∀ id ∈ f.targets, P id) (hx : x.fallBack text f? = pure x') :
    ∀ id ∈ x'.stack, P id := by
  unfold Context.fallBack at hx
  split at hx
  · exact Context.skipCharacter_stack hx ▸ h
  · rename_i f
    split at hx
    · exact Context.apply_stack h (hf f rfl) hx
    · split at hx
      · exact Context.apply_stack (x := { x with fallbackAt := some x.pos }) h (hf f rfl) hx
      · exact Context.skipCharacter_stack hx ▸ h

variable (ht : t.Keeps P)

include ht

theorem Context.advance_stack {text : List Char} {x x' : Context} (h : ∀ id ∈ x.stack, P id)
    (hx : x.advance t text = pure x') : ∀ id ∈ x'.stack, P id := by
  obtain ⟨top, htop, hx⟩ := Run.bind_eq_pure_iff.mp hx
  obtain ⟨state, hstate, hx⟩ := Run.bind_eq_pure_iff.mp hx
  obtain ⟨hit?, hhit, hx⟩ := Run.bind_eq_pure_iff.mp hx
  have hP := h top (Context.current_mem htop)
  have hget := getElem?_of_stateAt hstate
  cases hit? with
  | none => exact Context.fallBack_stack h (ht.fallbacks top state hP hget) hx
  | some found =>
    obtain ⟨r, hit⟩ := found
    obtain ⟨x₁, hx₁, hx⟩ := Run.bind_eq_pure_iff.mp hx
    obtain rfl := Run.pure_inj hx
    dsimp only
    cases hf : r.transition with
    | none =>
      rw [hf] at hx₁
      exact Run.pure_inj hx₁ ▸ h
    | some f =>
      rw [hf] at hx₁
      exact Context.apply_stack h
        (ht.transitions top state hP hget r (mem_of_firstHit hhit) f hf) hx₁

/-- **A step keeps the stack among the states with the property.** -/
theorem step_stack {m m' : Machine} (h : ∀ id ∈ m.context.stack, P id) (hm : step t m = pure m') :
    ∀ id ∈ m'.context.stack, P id := by
  obtain ⟨x, tokens, hx, rfl⟩ := exists_of_step hm
  exact Context.advance_stack ht h hx

theorem Reaches.stack {mc m : Machine} {n : Nat} {returned : List Token}
    (hmc : ∀ id ∈ mc.context.stack, P id) (h : Reaches t mc n returned m) :
    ∀ id ∈ m.context.stack, P id := by
  induction h with
  | start => exact hmc
  | step _ _ _ hm ih => exact step_stack ht ih hm
  | give _ _ ih => exact ih

/-- The text of a group is lexed from a state with the property. -/
theorem Machine.Opens.state_of_stack {m : Machine} {state : StateId} {start : Nat}
    {piece : List Char} (hm : ∀ id ∈ m.context.stack, P id) (h : m.Opens t state start piece) :
    P state := by
  obtain ⟨id, current, hid, hcurrent, r, hr, htarget⟩ := h.exists_rule
  exact ht.actions id current (hm id (Context.current_mem hid)) hcurrent r hr state htarget

end

/-! ## 4. All lexers of a run -/

/-- A machine at a moment of the run that begins with the machine `root`: it is `root` itself, or a
machine for the text of a group, at work while another one takes a step. -/
inductive During (t : Table) (root : Machine) : Machine → Prop where
  | root {n : Nat} {returned : List Token} {m : Machine} (hm : Reaches t root n returned m) :
      During t root m
  | group {outer : Machine} {state : StateId} {start : Nat} {piece : List Char} {n : Nat}
      {returned : List Token} {m : Machine} (ho : During t root outer)
      (hd : outer.depth < maxSubLexDepth) (hg : outer.Opens t state start piece)
      (hm : Reaches t (.start state piece (outer.base + start) (outer.depth + 1)) n returned m) :
      During t root m

theorem During.stack {t : Table} {P : StateId → Prop} (ht : t.Keeps P) {root m : Machine}
    (hroot : ∀ id ∈ root.context.stack, P id) (h : During t root m) :
    ∀ id ∈ m.context.stack, P id := by
  induction h with
  | root hm => exact hm.stack ht hroot
  | group _ _ hg hm ih =>
    exact hm.stack ht (List.forall_mem_singleton.mpr (hg.state_of_stack ht ih))

/-- **Findings are right about every run.**  Whatever text a compiled table lexes from its initial
state, no state that is reported as unreachable is ever on the stack, and no rule that is reported
for its pattern ever fires or is applied by a step, in the lexer for the text or in any lexer that
is started inside of it for the text of a group. -/
theorem findings_hold_during {g : Grammar} {t : Table} (h : g.compile = .ok t) (text : List Char)
    {m : Machine} (hm : During t (.start t.initial text) m) {f : Finding} (hf : f ∈ g.lint) :
    (f.kind = .unreachableState → ∀ id ∈ m.context.stack, t.stateName id ≠ f.state) ∧
    ∀ earlier, f.kind = .duplicatePattern earlier → ∃ index, f.rule = some index ∧
      ∀ id, t.stateName id = f.state → ¬ m.Fires t id index ∧ ¬ m.AppliesAt t id index := by
  obtain ⟨hv, hto⟩ := Grammar.valid_and_compilesTo_of_compile h
  obtain ⟨hunreachable, hduplicate⟩ := Grammar.of_mem_lint hf
  refine ⟨fun hk id hid hname => ?_, fun earlier hk => ?_⟩
  · have hinitial : g.Reached t.initial := by
      rw [hto.initial]
      exact Grammar.reached_position g.initial_mem_reachable
        (Grammar.position_lt_iff.mpr hv.initial)
    obtain ⟨s, hs, hreach⟩ := hm.stack (Grammar.keeps_reachable h)
      (List.forall_mem_singleton.mpr hinitial) id hid
    refine hunreachable hk ?_
    rwa [← hname, (hto.ids id s hs).2.2]
  · obtain ⟨index, hindex, hlt, first, later, hfirst, hlater, hpattern⟩ := hduplicate earlier hk
    refine ⟨index, hindex, fun id hname => ?_⟩
    -- A rule that is applied fires.
    suffices hfires : ¬ m.Fires t id index from ⟨hfires, mt Machine.AppliesAt.fires hfires⟩
    intro hfires
    have ⟨c, _, _, _, hstate, _⟩ := hfires
    have hc := getElem?_of_stateAt hstate
    obtain ⟨s, hs, hsname, hrules⟩ :=
      Checks.exists_right_of_getElem? (Grammar.forall₂_expand_of_compile h).flip hc
    rw [← (hto.ids id s hs).2.2, hname] at hrules
    obtain ⟨first', hfirst', hcfirst⟩ := Checks.exists_right_of_getElem? hrules hfirst
    obtain ⟨later', hlater', hclater⟩ := Checks.exists_right_of_getElem? hrules hlater
    have hsame := hcfirst.pattern
    rw [hpattern] at hsame
    exact not_fires_of_pattern_eq hc hlt hfirst' hlater'
      (Except.ok.inj (hsame.symm.trans hclater.pattern)) hfires

/-- A grammar with a rule that is listed once more after it was included, and with a state that
nothing refers to.  What is quoted is lexed on its own. -/
def redundant : Grammar where
  name := "redundant"
  states := [
    { name := "root"
      entries := [.include "words", .rule { pattern := "a", action := .token .name },
        .rule { pattern := "q(a+)", action := .groups [.using "root"] .text }] },
    { name := "words", entries := [.rule { pattern := "a", action := .token .text }] },
    { name := "orphan", entries := [.include "words"] }]

def redundantWord : TableRule := ⟨"a", .char 'a', .token .text, none⟩

def redundantQuote : TableRule where
  source := "q(a+)"
  pattern := .seq (.char 'q') (.group 1 (.repeated (.char 'a') 1 none true))
  action := .groups [.using 0] .text
  transition := none

def redundantTable : Table :=
  ⟨"redundant", 0,
    [⟨"root", [redundantWord, { redundantWord with action := .token .name }, redundantQuote], none⟩,
      ⟨"words", [redundantWord], none⟩, ⟨"orphan", [redundantWord], none⟩]⟩

theorem reachable_redundant : redundant.reachable = ["words", "root"] := by
  have hroot : redundant.state? "root" = some redundant.states[0] := by decide +kernel
  have hwords : redundant.state? "words" = some redundant.states[1] := by decide +kernel
  have hseen : "words" ∉ ["root"] := by decide
  calc redundant.reachable
      = redundant.explore ["root"] ["words", "root"] :=
        Grammar.explore_of_state? hroot List.not_mem_nil
    _ = redundant.explore ["words", "root"] ["root"] := Grammar.explore_of_state? hwords hseen
    _ = redundant.explore ["words", "root"] [] := Grammar.explore_of_mem (by decide) []
    _ = ["words", "root"] := Grammar.explore_nil _ _

theorem lint_redundant : redundant.lint =
    [⟨"root", some 1, .duplicatePattern 0⟩, ⟨"orphan", none, .unreachableState⟩] := by
  rw [Grammar.lint, reachable_redundant]
  decide +kernel

theorem compile_redundant : redundant.compile = .ok redundantTable := by decide +kernel

/-- Before the quote in `aqaa`. -/
def beforeQuote : Machine := ⟨['a', 'q', 'a', 'a'], 0, 0, ⟨1, [0], none⟩, []⟩

/-- Between the quoted letters, in the lexer for them. -/
def insideQuote : Machine := ⟨['a', 'a'], 2, 1, ⟨1, [0], none⟩, []⟩

/-- The lexer for a text that begins with a word gets behind it. -/
theorem exists_reaches_redundant (text : List Char) (base depth : Nat)
    (hd : depth ≤ maxSubLexDepth) (hlt : 0 < byteLength text)
    (hmatch : firstMatch? (redundantTable.state 0).rules none text =
      some (redundantWord, ⟨1, []⟩)) (hlength : byteLength (text.take 1) = 1) :
    ∃ returned, Reaches redundantTable (.start 0 text base depth) 1 returned
      ⟨text, base, depth, ⟨1, [0], none⟩, []⟩ := by
  have hfirst : firstHit ([] ++ text) 0 (redundantTable.state 0).rules = _ := firstHit_eq rfl _
  rw [List.getLast?_nil, hmatch] at hfirst
  have hadvance : Context.advance redundantTable text ⟨0, [0], none⟩ =
      pure { (⟨0, [0], none⟩ : Context) with pos := (Hit.ofMatch 0 text ⟨1, []⟩).stop } :=
    Context.advance_of_firstHit rfl rfl hfirst rfl
  have hstop : (Hit.ofMatch 0 text ⟨1, []⟩).stop = 1 := (Nat.zero_add _).trans hlength
  rw [hstop] at hadvance
  exact Reaches.start.exists_advance (Grammar.closed_of_compile compile_redundant) (by decide) hd
    hlt hadvance

theorem during_beforeQuote :
    During redundantTable (.start 0 ['a', 'q', 'a', 'a']) beforeQuote := by
  obtain ⟨_, hreaches⟩ := exists_reaches_redundant ['a', 'q', 'a', 'a'] 0 0 (by decide) (by decide)
    (by decide +kernel) rfl
  exact .root hreaches

theorem during_insideQuote :
    During redundantTable (.start 0 ['a', 'q', 'a', 'a']) insideQuote := by
  obtain ⟨_, hreaches⟩ := exists_reaches_redundant ['a', 'a'] 2 1 (by decide) (by decide)
    (by decide +kernel) rfl
  have hquote : firstMatch? (redundantTable.state 0).rules (some 'a') ['q', 'a', 'a'] =
      some (redundantQuote, ⟨3, [⟨1, 1, 3⟩]⟩) := by decide +kernel
  have hfirst : firstHit (['a'] ++ ['q', 'a', 'a']) 1 (redundantTable.state 0).rules = _ :=
    firstHit_eq rfl _
  rw [List.getLast?_singleton, hquote] at hfirst
  have hopens : beforeQuote.Opens redundantTable 0 2 ['a', 'a'] :=
    ⟨0, _, redundantQuote, _, _, _, 0, _, rfl, rfl, hfirst, rfl, rfl, rfl, rfl⟩
  exact .group during_beforeQuote (by decide) hopens hreaches

/-- The first of the two equal rules is applied to the second letter. -/
theorem appliesAt_insideQuote : insideQuote.AppliesAt redundantTable 0 0 := by
  obtain ⟨_, hreaches⟩ := exists_reaches_redundant ['a', 'a'] 2 1 (by decide) (by decide)
    (by decide +kernel) rfl
  obtain ⟨m', hm'⟩ := hreaches.exists_step (Grammar.closed_of_compile compile_redundant)
    (by decide) (by decide) (by decide)
  have hmatch : redundantWord.match? (some 'a') ['a'] = some ⟨1, []⟩ := by decide +kernel
  have hword : matchAt (['a'] ++ ['a']) 1 redundantWord = _ := matchAt_eq rfl redundantWord
  rw [List.getLast?_singleton, hmatch] at hword
  exact (appliesAt_iff_fires hm').mpr
    ⟨_, redundantWord, _, rfl, rfl, rfl, hword, fun _ h => by cases h⟩

/-- The lexer for the whole text is about to start the one for the quoted letters, and in this one
the first of the two equal rules is applied and not the second. -/
theorem findings_hold_during_redundant :
    redundant.compile = .ok redundantTable ∧
      redundant.lint = [⟨"root", some 1, .duplicatePattern 0⟩, ⟨"orphan", none, .unreachableState⟩] ∧
      insideQuote.AppliesAt redundantTable 0 0 ∧ ∀ m ∈ [beforeQuote, insideQuote],
        During redundantTable (.start 0 ['a', 'q', 'a', 'a']) m ∧
          (∀ id ∈ m.context.stack, redundantTable.stateName id ≠ "orphan") ∧
          ¬ m.Fires redundantTable 0 1 ∧ ¬ m.AppliesAt redundantTable 0 1 := by
  have hduring : ∀ m ∈ [beforeQuote, insideQuote],
      During redundantTable (.start 0 ['a', 'q', 'a', 'a']) m :=
    List.forall_mem_cons.mpr
      ⟨during_beforeQuote, List.forall_mem_singleton.mpr during_insideQuote⟩
  refine ⟨compile_redundant, lint_redundant, appliesAt_insideQuote,
    fun m hm => ⟨hduring m hm, ?_⟩⟩
  have hfindings := fun f hf =>
    findings_hold_during compile_redundant _ (hduring m hm) (f := f) (lint_redundant ▸ hf)
  obtain ⟨-, hduplicate⟩ := hfindings _ List.mem_cons_self
  obtain ⟨hunreachable, -⟩ := hfindings _ (List.mem_cons_of_mem _ List.mem_cons_self)
  obtain ⟨index, hindex, hfires⟩ := hduplicate 0 rfl
  obtain rfl : 1 = index := Option.some.inj hindex
  exact ⟨hunreachable rfl, hfires 0 rfl⟩

end Bytewise

end Highlighter
