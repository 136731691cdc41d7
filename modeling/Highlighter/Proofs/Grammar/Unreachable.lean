/-
# Unreachable states are told exactly

What lexing can come to, said without a search: the least set of names that has the initial one and
is closed under the references of the first declaration of each name in it (`Grammar.ComesTo`).

* The search takes a name a turn from a queue (`Search.turn`).  The references that it has not yet
  looked at, and those that wait, become fewer with each turn (`work_turn_lt`), so **it comes to an
  end** (`exists_turns`), in whatever way states include or push one another.
* What it sees, lexing can come to (`comesTo_of_mem_explore`), and what it has seen in the end is
  closed, so **the two sets are one** (`mem_reachable_iff`).
* A state is reported just if its name is in neither (`unreachable_told_exactly`).

None of this needs the grammar to compile: names may be declared twice, or not at all.
-/
import Highlighter.Grammar.Lint
import Highlighter.Proofs.Grammar.Reachability

namespace Highlighter

namespace Grammar

/-! ## 1. What lexing can come to -/

/-- The first declaration of the name `a` names `b`: in an include, in the transition of a rule, in
a group of a rule that is lexed by itself, or in the fallback. -/
inductive LeadsTo (g : Grammar) (a b : String) : Prop where
  | included {s : State} (hs : g.state? a = some s) (h : .include b ∈ s.entries)
  | pushed {s : State} {r : Rule} {states : List String} (hs : g.state? a = some s)
      (hr : .rule r ∈ s.entries) (ht : r.transition = some (.push states)) (h : b ∈ states)
  | replaced {s : State} {r : Rule} (hs : g.state? a = some s) (hr : .rule r ∈ s.entries)
      (ht : r.transition = some (.replace b))
  | grouped {s : State} {r : Rule} {actions : List (GroupAction String)} {gap : Kind}
      (hs : g.state? a = some s) (hr : .rule r ∈ s.entries) (ha : r.action = .groups actions gap)
      (h : .using b ∈ actions)
  | fallbackPushed {s : State} {states : List String} (hs : g.state? a = some s)
      (ht : s.fallback = some (.push states)) (h : b ∈ states)
  | fallbackReplaced {s : State} (hs : g.state? a = some s) (ht : s.fallback = some (.replace b))

/-- The names that lexing can come to: the least set that has the initial name and is closed under
references. -/
inductive ComesTo (g : Grammar) : String → Prop where
  | initial : ComesTo g g.initial
  | next {a b : String} (ha : ComesTo g a) (hab : g.LeadsTo a b) : ComesTo g b

/-- The targets of a transition are what it pushes or puts in the place of a state. -/
theorem mem_targets_iff {t : Transition String} {b : String} :
    b ∈ t.targets ↔ (∃ states, t = .push states ∧ b ∈ states) ∨ t = .replace b := by
  cases t with
  | push states => simp [Transition.targets]
  | pushCurrent => simp [Transition.targets]
  | pop count => simp [Transition.targets]
  | replace state => simp [Transition.targets, eq_comm]

theorem mem_actionTargets_iff {a : Action String} {b : String} :
    b ∈ a.targets ↔ ∃ actions gap, a = .groups actions gap ∧ .using b ∈ actions := by
  cases a with
  | token kind => simp [Action.targets]
  | groups actions gap =>
    have htarget : ∀ x : GroupAction String, x.target? = some b ↔ x = .using b := by
      intro x
      cases x <;> simp [GroupAction.target?]
    simp [Action.targets, htarget]

variable {g : Grammar} {a b name : String}

/-- The references that the search goes by are those. -/
theorem leadsTo_iff_refers : g.LeadsTo a b ↔ g.Refers a b := by
  constructor
  · intro h
    cases h with
    | included hs h =>
      exact ⟨_, hs, List.mem_append_left _ (List.mem_flatMap.mpr ⟨_, h, List.mem_singleton_self b⟩)⟩
    | pushed hs hr ht h =>
      refine ⟨_, hs, List.mem_append_left _ (List.mem_flatMap.mpr ⟨_, hr, ?_⟩)⟩
      simp [Entry.references, ht, Transition.targets, h]
    | replaced hs hr ht =>
      refine ⟨_, hs, List.mem_append_left _ (List.mem_flatMap.mpr ⟨_, hr, ?_⟩)⟩
      simp [Entry.references, ht, Transition.targets]
    | grouped hs hr ha h =>
      refine ⟨_, hs, List.mem_append_left _ (List.mem_flatMap.mpr ⟨_, hr, ?_⟩)⟩
      exact List.mem_append_right _ (mem_actionTargets_iff.mpr ⟨_, _, ha, h⟩)
    | fallbackPushed hs ht h =>
      exact ⟨_, hs, List.mem_append_right _ (by simp [ht, Transition.targets, h])⟩
    | fallbackReplaced hs ht =>
      exact ⟨_, hs, List.mem_append_right _ (by simp [ht, Transition.targets])⟩
  · rintro ⟨s, hs, h⟩
    rcases List.mem_append.mp h with h | h
    · obtain ⟨e, he, h⟩ := List.mem_flatMap.mp h
      cases e with
      | «include» state =>
        obtain rfl := List.mem_singleton.mp h
        exact .included hs he
      | rule r =>
        rcases List.mem_append.mp h with h | h
        · cases ht : r.transition with
          | none => simp [ht] at h
          | some t =>
            rw [ht] at h
            rcases mem_targets_iff.mp h with ⟨states, rfl, h⟩ | rfl
            · exact .pushed hs he ht h
            · exact .replaced hs he ht
        · obtain ⟨actions, gap, ha, h⟩ := mem_actionTargets_iff.mp h
          exact .grouped hs he ha h
    · cases ht : s.fallback with
      | none => simp [ht] at h
      | some t =>
        rw [ht] at h
        rcases mem_targets_iff.mp h with ⟨states, rfl, h⟩ | rfl
        · exact .fallbackPushed hs ht h
        · exact .fallbackReplaced hs ht

/-! ## 2. The search finds just that -/

/-- **What the search sees, lexing can come to**, if that holds of what it has seen and of what
waits. -/
theorem comesTo_of_mem_explore {seen queue : List String} (hseen : ∀ x ∈ seen, g.ComesTo x)
    (hqueue : ∀ x ∈ queue, g.ComesTo x) (h : name ∈ g.explore seen queue) : g.ComesTo name := by
  fun_induction explore g seen queue with
  | case1 seen => exact hseen name h
  | case2 seen first queue hfirst ih =>
    exact ih hseen (List.forall_mem_cons.mp hqueue).2 h
  | case3 seen first queue _ _ ih =>
    obtain ⟨hfirst, hqueue⟩ := List.forall_mem_cons.mp hqueue
    exact ih (List.forall_mem_cons.mpr ⟨hfirst, hseen⟩) hqueue h
  | case4 seen first queue _ s hs ih =>
    obtain ⟨hfirst, hqueue⟩ := List.forall_mem_cons.mp hqueue
    refine ih (List.forall_mem_cons.mpr ⟨hfirst, hseen⟩) ?_ h
    refine List.forall_mem_append.mpr ⟨hqueue, fun x hx => ?_⟩
    exact hfirst.next (leadsTo_iff_refers.mpr ⟨s, hs, hx⟩)

/-- **The search finds the names that lexing can come to, and no others.** -/
theorem mem_reachable_iff : name ∈ g.reachable ↔ g.ComesTo name := by
  constructor
  · exact comesTo_of_mem_explore (fun _ hx => by cases hx)
      (List.forall_mem_singleton.mpr .initial)
  · intro h
    induction h with
    | initial => exact g.initial_mem_reachable
    | next _ hab ih => exact mem_reachable_of_refers ih (leadsTo_iff_refers.mp hab)

instance (g : Grammar) (name : String) : Decidable (g.ComesTo name) :=
  decidable_of_iff _ mem_reachable_iff

/-! ## 3. The search comes to an end -/

/-- The search at some moment: the names seen so far, and those that wait. -/
structure Search where
  seen : List String
  queue : List String

namespace Search

/-- Before the first turn. -/
def start (g : Grammar) : Search := ⟨[], [g.initial]⟩

/-- One turn takes the first name that waits.  A name that has not been seen has its references wait
behind the others, if it is declared. -/
def turn (g : Grammar) (s : Search) : Search :=
  match s.queue with
  | [] => s
  | name :: queue =>
    if name ∈ s.seen then ⟨s.seen, queue⟩
    else
      match g.state? name with
      | none => ⟨name :: s.seen, queue⟩
      | some state => ⟨name :: s.seen, queue ++ state.references⟩

/-- So many turns. -/
def turns (g : Grammar) : Nat → Search → Search
  | 0, s => s
  | n + 1, s => turns g n (s.turn g)

/-- The references of states whose names have not been seen. -/
def unread (seen : List String) (states : List State) : List String :=
  states.flatMap fun s => if s.name ∈ seen then [] else s.references

/-- What is still to do at most: the names that wait, and the references not yet read. -/
def work (g : Grammar) (s : Search) : Nat := s.queue.length + (unread s.seen g.states).length

theorem length_unread_cons_le (seen : List String) (states : List State) (name : String) :
    (unread (name :: seen) states).length ≤ (unread seen states).length := by
  induction states with
  | nil => exact Nat.le_refl _
  | cons s states ih =>
    have hs : (if s.name ∈ name :: seen then [] else s.references).length ≤
        (if s.name ∈ seen then [] else s.references).length := by
      split
      · exact Nat.zero_le _
      · rename_i hs
        rw [if_neg fun h => hs (List.mem_cons_of_mem name h)]
    simp only [unread, List.flatMap_cons, List.length_append] at ih ⊢
    exact Nat.add_le_add hs ih

/-- The references of a state that is seen for the first time are read. -/
theorem length_unread_cons_add_le {seen : List String} {states : List State} {s : State}
    (hs : s ∈ states) (hname : s.name ∉ seen) :
    (unread (s.name :: seen) states).length + s.references.length ≤
      (unread seen states).length := by
  obtain ⟨before, after, rfl⟩ := List.append_of_mem hs
  have hbefore := length_unread_cons_le seen before s.name
  have hafter := length_unread_cons_le seen after s.name
  simp only [unread, List.flatMap_append, List.flatMap_cons, List.length_append,
    List.mem_cons_self, if_true, if_neg hname, List.length_nil] at hbefore hafter ⊢
  omega

/-- **Each turn leaves less to do.** -/
theorem work_turn_lt {s : Search} (h : s.queue ≠ []) : (s.turn g).work g < s.work g := by
  obtain ⟨seen, queue⟩ := s
  cases queue with
  | nil => exact absurd rfl h
  | cons name queue =>
    unfold turn work
    dsimp only
    rw [List.length_cons]
    split
    · dsimp only
      omega
    · rename_i hname
      split
      · have hle := length_unread_cons_le seen g.states name
        dsimp only
        omega
      · rename_i state hstate
        have hmem : state ∈ g.states := List.mem_of_find?_eq_some hstate
        obtain rfl : state.name = name := by simpa using List.find?_some hstate
        have hle := length_unread_cons_add_le hmem hname
        simp only [List.length_append]
        omega

/-- What the search finds is the same before and after a turn. -/
theorem explore_turn (s : Search) :
    g.explore (s.turn g).seen (s.turn g).queue = g.explore s.seen s.queue := by
  obtain ⟨seen, queue⟩ := s
  cases queue with
  | nil => rfl
  | cons name queue =>
    conv_rhs => rw [explore]
    unfold turn
    dsimp only
    split
    · rfl
    · split
      · rename_i hnone
        rw [hnone]
      · rename_i state hstate
        rw [hstate]

/-- **The search comes to its end**, after no more turns than there was to do. -/
theorem exists_turns (s : Search) :
    ∃ n ≤ s.work g, s.turns g n = ⟨g.explore s.seen s.queue, []⟩ := by
  induction hwork : s.work g using Nat.strong_induction_on generalizing s with
  | h work ih =>
    by_cases hqueue : s.queue = []
    · refine ⟨0, Nat.zero_le _, ?_⟩
      obtain ⟨seen, queue⟩ := s
      obtain rfl : queue = [] := hqueue
      rw [explore_nil]
      rfl
    · have hlt := hwork ▸ work_turn_lt (g := g) hqueue
      obtain ⟨n, hn, hturns⟩ := ih _ hlt (s.turn g) rfl
      refine ⟨n + 1, Nat.lt_of_le_of_lt hn hlt, ?_⟩
      rw [turns, hturns, explore_turn]

end Search

/-! ## 4. What is reported -/

/-- A finding about a pattern or a word is about a rule. -/
theorem rule_of_mem_ruleFindings {state : String} {rules : List Rule} {f : Finding}
    (h : f ∈ lintPatterns state rules ++ lintWords state rules) :
    f.rule ≠ none ∧ f.kind ≠ .unreachableState := by
  rcases List.mem_append.mp h with h | h
  · obtain ⟨_, -, rfl⟩ := List.mem_map.mp h
    exact ⟨Option.some_ne_none _, fun hk => by cases hk⟩
  · obtain ⟨_, -, rfl⟩ := List.mem_map.mp h
    exact ⟨Option.some_ne_none _, fun hk => by cases hk⟩

/-- **Unreachable states are told exactly.**  In any grammar the search comes to its end after a
turn for the initial name and one for each reference of each declaration at most.  A declared state
is reported as unreachable just if lexing cannot come to its name; and these findings come once for
each declaration, in the order of declaration, after all findings about rules. -/
theorem unreachable_told_exactly (g : Grammar) :
    (∃ n ≤ 1 + (g.states.flatMap State.references).length,
      (Search.start g).turns g n = ⟨g.reachable, []⟩) ∧
    (∀ s ∈ g.states, ⟨s.name, none, .unreachableState⟩ ∈ g.lint ↔ ¬ g.ComesTo s.name) ∧
    ∃ ruleFindings : List Finding,
      (∀ f ∈ ruleFindings, f.rule ≠ none ∧ f.kind ≠ .unreachableState) ∧
      g.lint = ruleFindings ++
        (g.states.filter fun s => ¬ g.ComesTo s.name).map fun s =>
          ⟨s.name, none, .unreachableState⟩ := by
  let ruleFindings := g.states.flatMap fun s =>
    lintPatterns s.name (g.expand s.name) ++ lintWords s.name (g.expand s.name)
  have hrules : ∀ f ∈ ruleFindings, f.rule ≠ none ∧ f.kind ≠ .unreachableState := by
    intro f hf
    obtain ⟨s, -, hf⟩ := List.mem_flatMap.mp hf
    exact rule_of_mem_ruleFindings hf
  have hlint : g.lint = ruleFindings ++
      (g.states.filter fun s => ¬ g.ComesTo s.name).map fun s =>
        ⟨s.name, none, .unreachableState⟩ := by
    have hsame : (fun s : State => !g.reachable.contains s.name) =
        fun s => decide (¬ g.ComesTo s.name) := by
      funext s
      simp [← mem_reachable_iff]
    rw [lint, hsame]
  refine ⟨?_, fun s hs => ?_, ruleFindings, hrules, hlint⟩
  · have hwork : (Search.start g).work g = 1 + (g.states.flatMap State.references).length := by
      simp [Search.work, Search.start, Search.unread]
    exact hwork ▸ Search.exists_turns (Search.start g)
  · rw [hlint, List.mem_append, List.mem_map]
    constructor
    · rintro (hf | ⟨s', hs', heq⟩)
      · exact absurd rfl (hrules _ hf).2
      · rw [← (Finding.mk.inj heq).1]
        exact of_decide_eq_true (List.mem_filter.mp hs').2
    · intro hnot
      exact Or.inr ⟨s, List.mem_filter.mpr ⟨hs, decide_eq_true hnot⟩, rfl⟩

end Grammar

end Highlighter
