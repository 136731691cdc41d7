/-
# What an outcome of a pattern is

`Pattern.ends` finds its outcomes with sets of places already seen, with bounds on the iterations
and in an order of preference.  `Pattern.Leads` says without any of this which outcomes there can
be, and every outcome that is found is one of them (`leads_of_mem_ends`).

What holds of all outcomes is then an induction over the pattern.  The one fact taken from it here
is that a match stays inside the text ahead and its groups inside the match (`follows_of_leads`,
`length_le_of_match?`, `span?_bounds`).
-/
import Highlighter.Regex.Match

namespace Highlighter

/-! ## 1. The relation -/

/-- So many steps of a relation. -/
inductive Iterates (R : Progress → Progress → Prop) : Nat → Progress → Progress → Prop where
  | none (p : Progress) : Iterates R 0 p p
  | more {n : Nat} {p q r : Progress} : Iterates R n p q → R q r → Iterates R (n + 1) p r

theorem Iterates.mono {R S : Progress → Progress → Prop} (h : ∀ p q, R p q → S p q) {n : Nat}
    {p q : Progress} (hi : Iterates R n p q) : Iterates S n p q := by
  induction hi with
  | none p => exact .none p
  | more _ hr ih => exact .more ih (h _ _ hr)

theorem Iterates.add {R : Progress → Progress → Prop} {m n : Nat} {p q r : Progress}
    (h : Iterates R m p q) (h' : Iterates R n q r) : Iterates R (m + n) p r := by
  induction h' with
  | none q => exact h
  | more _ hr ih => exact .more (ih h) hr

theorem Iterates.one {R : Progress → Progress → Prop} {p q : Progress} (h : R p q) :
    Iterates R 1 p q := .more (.none p) h

/-- A preorder that holds of each step holds of all of them. -/
theorem Iterates.le {R S : Progress → Progress → Prop} (refl : ∀ p, S p p)
    (trans : ∀ p q r, S p q → S q r → S p r) (h : ∀ p q, R p q → S p q) {n : Nat}
    {p q : Progress} (hi : Iterates R n p q) : S p q := by
  induction hi with
  | none p => exact refl p
  | more _ hr ih => exact trans _ _ _ ih (h _ _ hr)

/-- The pattern can lead from one place to another.  Of two bounds that contradict each other the
lower one counts. -/
def Pattern.Leads : Pattern → Progress → Progress → Prop
  | empty, p, q => q = p
  | set s, p, q =>
    ∃ c place, p.place.next? = some (c, place) ∧ s.contains c = true ∧ q = { p with place }
  | look a, p, q => a.holds p.place = true ∧ q = p
  | seq a b, p, q => ∃ r, a.Leads p r ∧ b.Leads r q
  | alt a b, p, q => a.Leads p q ∨ b.Leads p q
  | repeated a min max _, p, q =>
    ∃ n, min ≤ n ∧ (∀ m, max = some m → n ≤ Max.max min m) ∧ Iterates a.Leads n p q
  | group i a, p, q => ∃ r, a.Leads p r ∧ q = r.close i p.index

/-! ## 2. Lists of outcomes -/

theorem mem_of_mem_distinctFrom {seen : IndexSet} {os : List Progress} {o : Progress}
    (h : o ∈ distinctFrom seen os) : o ∈ os := by
  induction os generalizing seen with
  | nil => exact h
  | cons first os ih =>
    unfold distinctFrom at h
    split at h
    · exact List.mem_cons_of_mem _ (ih h)
    · rcases List.mem_cons.mp h with rfl | h
      · exact List.mem_cons_self
      · exact List.mem_cons_of_mem _ (ih h)

theorem mem_of_mem_distinct {os : List Progress} {o : Progress} (h : o ∈ distinct os) : o ∈ os :=
  mem_of_mem_distinctFrom h

theorem exists_of_mem_goOn {os : List Progress} {next : Progress → List Progress} {o : Progress}
    (h : o ∈ goOn os next) : ∃ p ∈ os, o ∈ next p := by
  unfold goOn at h
  split at h
  · cases h
  · exact ⟨_, List.mem_singleton_self _, h⟩
  · exact List.mem_flatMap.mp (mem_of_mem_distinct h)

theorem mem_or_mem_of_mem_orElse {os others : List Progress} {o : Progress}
    (h : o ∈ orElse os others) : o ∈ os ∨ o ∈ others := by
  unfold orElse at h
  split at h
  · exact Or.inr h
  · exact Or.inl h
  · exact List.mem_append.mp (mem_of_mem_distinct h)

/-- For every outcome one with the same end is kept. -/
theorem exists_mem_distinctFrom {seen : IndexSet} {os : List Progress} {o : Progress}
    (h : o ∈ os) (hseen : seen.contains o.index = false) :
    ∃ q ∈ distinctFrom seen os, q.index = o.index := by
  induction os generalizing seen with
  | nil => cases h
  | cons first os ih =>
    unfold distinctFrom
    split
    · rename_i hfirst
      have hne : o ≠ first := fun heq => Bool.eq_false_iff.mp hseen (heq ▸ hfirst)
      exact ih ((List.mem_cons.mp h).resolve_left hne) hseen
    · by_cases hindex : first.index = o.index
      · exact ⟨first, List.mem_cons_self, hindex⟩
      · have hne : o ≠ first := fun heq => hindex (heq ▸ rfl)
        have hseen' : (seen.insert first.index).contains o.index = false := by
          simp [hseen, hindex]
        obtain ⟨q, hq, heq⟩ := ih ((List.mem_cons.mp h).resolve_left hne) hseen'
        exact ⟨q, List.mem_cons_of_mem first hq, heq⟩

theorem exists_mem_distinct {os : List Progress} {o : Progress} (h : o ∈ os) :
    ∃ q ∈ distinct os, q.index = o.index :=
  exists_mem_distinctFrom h (IndexSet.contains_empty _)

theorem exists_mem_goOn {os : List Progress} {next : Progress → List Progress} {p o : Progress}
    (hp : p ∈ os) (ho : o ∈ next p) : ∃ q ∈ goOn os next, q.index = o.index := by
  unfold goOn
  split
  · cases hp
  · exact ⟨o, List.mem_singleton.mp hp ▸ ho, rfl⟩
  · exact exists_mem_distinct (List.mem_flatMap_of_mem hp ho)

theorem exists_mem_orElse {os others : List Progress} {o : Progress}
    (h : o ∈ os ∨ o ∈ others) : ∃ q ∈ orElse os others, q.index = o.index := by
  unfold orElse
  split
  · exact ⟨o, h.resolve_left List.not_mem_nil, rfl⟩
  · exact ⟨o, h.resolve_right List.not_mem_nil, rfl⟩
  · exact exists_mem_distinct (List.mem_append.mpr h)

/-! ## 3. Repetitions -/

section Repetition

variable {body : Progress → List Progress} {greedy : Bool}

/-- One iteration. -/
abbrev Iteration (body : Progress → List Progress) (p q : Progress) : Prop := q ∈ body p

section Unbounded

variable {P : Progress → Prop} (hbody : ∀ p, P p → ∀ q ∈ body p, P q)

/-- Every outcome that has been found has a property. -/
def Found.All (P : Progress → Prop) (f : Found) : Prop := ∀ o ∈ f.outcomes, P o

theorem Found.all_none : Found.none.All P := fun _ h => by cases h

theorem Found.All.cons {f : Found} (hf : f.All P) {o : Progress} (ho : P o) {seen : IndexSet} :
    Found.All P ⟨seen, o :: f.outcomes⟩ := by
  intro x hx
  rcases List.mem_cons.mp hx with rfl | hx
  · exact ho
  · exact hf x hx

theorem Found.All.add {f : Found} (hf : f.All P) {o : Progress} (ho : P o) : (f.add o).All P := by
  unfold Found.add
  split
  · exact hf
  · exact hf.cons ho

include hbody

/-- What iterations keep holds of all that going on finds. -/
theorem iterateFrom_all {fuel : List Char} {f : Found} {o : Progress} (hf : f.All P)
    (ho : P o) : (iterateFrom body greedy fuel f o).All P := by
  induction fuel generalizing f o with
  | nil => exact hf
  | cons c fuel ih =>
    have hfold : ∀ g : Found, g.All P → Found.All P ((body o).foldl
        (fun f q => if q.index == o.index then f else iterateFrom body greedy fuel f q) g) := by
      intro g hg
      refine List.foldlRecOn (body o) _ (motive := Found.All P) hg fun g hg q hq => ?_
      split
      · exact hg
      · exact ih hg (hbody o ho q hq)
    unfold iterateFrom
    split
    · exact hf
    · cases greedy with
      | false => exact hfold _ (hf.cons ho)
      | true => exact Found.All.cons (hfold ⟨f.seen.insert o.index, f.outcomes⟩ hf) ho

theorem oneOrMore_all {f : Found} {p : Progress} (hf : f.All P) (hp : ∀ q ∈ body p, P q) :
    (oneOrMore body greedy f p).All P := by
  unfold oneOrMore
  refine List.foldlRecOn (body p) _ (motive := Found.All P) hf fun g hg q hq => ?_
  split
  · exact hg.add (hp q hq)
  · exact iterateFrom_all hbody hg (hp q hq)

theorem zeroOrMore_all {p : Progress} (hp : P p) : (zeroOrMore body greedy p).All P := by
  unfold zeroOrMore
  split
  · exact (oneOrMore_all hbody Found.all_none (hbody p hp)).add hp
  · exact oneOrMore_all hbody (Found.all_none.add hp) (hbody p hp)

end Unbounded

/-- A bounded repetition adds only what so many iterations lead to. -/
theorem upTo_outcomes {left : Nat} {f : FoundUpTo} {o x : Progress}
    (h : x ∈ (upTo body greedy left f o).outcomes) :
    x ∈ f.outcomes ∨ ∃ n, n ≤ left ∧ Iterates (Iteration body) n o x := by
  induction left generalizing f o x with
  | zero =>
    rcases List.mem_cons.mp h with rfl | h
    · exact Or.inr ⟨0, Nat.le_refl 0, .none _⟩
    · exact Or.inl h
  | succ left ih =>
    have hfold : ∀ g : FoundUpTo, ∀ y ∈ ((body o).foldl (upTo body greedy left) g).outcomes,
        y ∈ g.outcomes ∨ ∃ n, n ≤ left + 1 ∧ Iterates (Iteration body) n o y := by
      intro g
      refine List.foldlRecOn (body o) _
        (motive := fun g' : FoundUpTo => ∀ y ∈ g'.outcomes,
          y ∈ g.outcomes ∨ ∃ n, n ≤ left + 1 ∧ Iterates (Iteration body) n o y)
        (fun y hy => Or.inl hy) fun g' hg q hq y hy => ?_
      rcases ih hy with hy | ⟨n, hn, hi⟩
      · exact hg y hy
      · exact Or.inr ⟨1 + n, by omega, Iterates.add (.one hq) hi⟩
    unfold upTo at h
    dsimp only at h
    split at h
    · exact Or.inl h
    · cases greedy with
      | false =>
        rcases hfold _ x h with h | h
        · rcases List.mem_cons.mp h with rfl | h
          · exact Or.inr ⟨0, Nat.zero_le _, .none _⟩
          · exact Or.inl h
        · exact Or.inr h
      | true =>
        rcases List.mem_cons.mp h with rfl | h
        · exact Or.inr ⟨0, Nat.zero_le _, .none _⟩
        · exact hfold ⟨f.seen.tail, f.outcomes⟩ x h

theorem exactly_outcomes {n : Nat} {os : List Progress} {x : Progress}
    (h : x ∈ exactly body n os) : ∃ o ∈ os, Iterates (Iteration body) n o x := by
  induction n generalizing os with
  | zero => exact ⟨x, h, .none x⟩
  | succ n ih =>
    cases os with
    | nil => cases h
    | cons o os =>
      obtain ⟨q, hq, hi⟩ := ih h
      obtain ⟨p, hp, hpq⟩ := exists_of_mem_goOn hq
      refine ⟨p, hp, ?_⟩
      rw [Nat.add_comm]
      exact Iterates.add (.one hpq) hi

/-- **An outcome of a repetition is reached by a number of iterations within its bounds.** -/
theorem iterations_outcomes {min : Nat} {max : Option Nat} {p x : Progress}
    (h : x ∈ iterations body greedy min max p) :
    ∃ n, min ≤ n ∧ (∀ m, max = some m → n ≤ Max.max min m) ∧ Iterates (Iteration body) n p x := by
  unfold iterations at h
  split at h
  · rename_i max
    obtain ⟨q, hq, hx⟩ := exists_of_mem_goOn h
    obtain ⟨o, ho, hi⟩ := exactly_outcomes hq
    obtain rfl := List.mem_singleton.mp ho
    rcases upTo_outcomes (List.mem_reverse.mp (mem_of_mem_distinct hx)) with hnil | ⟨n, hn, hi'⟩
    · cases hnil
    · refine ⟨min + n, Nat.le_add_right _ _, ?_, hi.add hi'⟩
      intro m hm
      obtain rfl := Option.some.inj hm
      omega
  · split at h
    · have hall : (zeroOrMore body greedy p).All fun x => ∃ n, Iterates (Iteration body) n p x :=
        zeroOrMore_all (fun _ ⟨n, hi⟩ _ hq => ⟨n + 1, .more hi hq⟩) ⟨0, .none p⟩
      obtain ⟨n, hi⟩ := hall x (List.mem_reverse.mp h)
      exact ⟨n, Nat.zero_le n, fun _ hm => by (cases hm), hi⟩
    · rename_i min
      obtain ⟨q, hq, hx⟩ := exists_of_mem_goOn h
      obtain ⟨o, ho, hi⟩ := exactly_outcomes hq
      obtain rfl := List.mem_singleton.mp ho
      have hall : (oneOrMore body greedy .none q).All fun x =>
          ∃ n, 1 ≤ n ∧ Iterates (Iteration body) n q x :=
        oneOrMore_all (fun _ ⟨n, hn, hi⟩ _ hq => ⟨n + 1, by omega, .more hi hq⟩) Found.all_none
          (fun y hy => ⟨1, Nat.le_refl 1, .one hy⟩)
      obtain ⟨n, hn, hi'⟩ := hall x (List.mem_reverse.mp hx)
      exact ⟨min + n, by omega, fun _ hm => by (cases hm), hi.add hi'⟩

end Repetition

/-! ## 4. Outcomes of a pattern -/

namespace Pattern

/-- **What is found is an outcome.**  By induction on the pattern, one case per constructor. -/
theorem leads_of_mem_ends {a : Pattern} {p q : Progress} (h : q ∈ a.ends p) : a.Leads p q := by
  induction a generalizing p q with
  | empty => exact List.mem_singleton.mp h
  | set s =>
    unfold ends at h
    split at h
    · rename_i c place hnext
      split at h
      · exact ⟨c, place, hnext, ‹_›, List.mem_singleton.mp h⟩
      · cases h
    · cases h
  | look a =>
    unfold ends at h
    split at h
    · exact ⟨‹_›, List.mem_singleton.mp h⟩
    · cases h
  | seq a b iha ihb =>
    obtain ⟨r, hr, hq⟩ := exists_of_mem_goOn h
    exact ⟨r, iha hr, ihb hq⟩
  | alt a b iha ihb =>
    rcases mem_or_mem_of_mem_orElse h with h | h
    · exact Or.inl (iha h)
    · exact Or.inr (ihb h)
  | repeated a min max greedy ih =>
    obtain ⟨n, hmin, hmax, hi⟩ := iterations_outcomes h
    exact ⟨n, hmin, hmax, hi.mono fun _ _ hs => ih hs⟩
  | group i a ih =>
    obtain ⟨r, hr, hq⟩ := List.mem_map.mp h
    exact ⟨r, ih hr, hq.symm⟩

end Pattern

/-! ## 5. Matches stay inside the text -/

/-- A place later in the same text, with the groups closed on the way. -/
structure Progress.Follows (p q : Progress) : Prop where
  taken : ∃ taken, p.place.rest = taken ++ q.place.rest ∧ q.index = p.index + taken.length
  captures : ∀ c ∈ q.captures, c ∈ p.captures ∨
    p.index ≤ c.start ∧ c.start ≤ c.stop ∧ c.stop ≤ q.index

namespace Progress.Follows

theorem refl (p : Progress) : p.Follows p :=
  ⟨⟨[], rfl, rfl⟩, fun _ h => Or.inl h⟩

theorem index_le {p q : Progress} (h : p.Follows q) : p.index ≤ q.index := by
  obtain ⟨taken, -, hindex⟩ := h.taken
  omega

theorem trans (p q r : Progress) (h : p.Follows q) (h' : q.Follows r) : p.Follows r := by
  have hle := h.index_le
  have hle' := h'.index_le
  obtain ⟨taken, hrest, hindex⟩ := h.taken
  obtain ⟨taken', hrest', hindex'⟩ := h'.taken
  refine ⟨⟨taken ++ taken', ?_, ?_⟩, fun c hc => ?_⟩
  · rw [hrest, hrest', List.append_assoc]
  · rw [hindex', hindex, List.length_append, Nat.add_assoc]
  · rcases h'.captures c hc with hc | ⟨h1, h2, h3⟩
    · rcases h.captures c hc with hc | ⟨h1, h2, h3⟩
      · exact Or.inl hc
      · exact Or.inr ⟨h1, h2, by omega⟩
    · exact Or.inr ⟨by omega, h2, h3⟩

theorem next? {p : Progress} {c : Char} {place : Place} (h : p.place.next? = some (c, place)) :
    p.Follows { p with place } := by
  unfold Place.next? at h
  split at h
  · cases h
  · rename_i c' rest hrest
    obtain ⟨rfl, rfl⟩ := Prod.mk.inj (Option.some.inj h)
    exact ⟨⟨[c'], hrest, rfl⟩, fun _ h => Or.inl h⟩

theorem close {p q : Progress} (h : p.Follows q) (i : Nat) : p.Follows (q.close i p.index) := by
  refine ⟨h.taken, fun c hc => ?_⟩
  rcases List.mem_cons.mp hc with rfl | hc
  · exact Or.inr ⟨Nat.le_refl _, h.index_le, Nat.le_refl _⟩
  · exact h.captures c hc

end Progress.Follows

namespace Pattern

/-- **A pattern only leads ahead.** -/
theorem follows_of_leads {a : Pattern} {p q : Progress} (h : a.Leads p q) : p.Follows q := by
  induction a generalizing p q with
  | empty => exact h ▸ .refl p
  | set s =>
    obtain ⟨c, place, hnext, -, rfl⟩ := h
    exact .next? hnext
  | look a => exact h.2 ▸ .refl p
  | seq a b iha ihb =>
    obtain ⟨r, ha, hb⟩ := h
    exact .trans _ _ _ (iha ha) (ihb hb)
  | alt a b iha ihb =>
    rcases h with h | h
    · exact iha h
    · exact ihb h
  | repeated a min max greedy ih =>
    obtain ⟨n, -, -, hi⟩ := h
    exact hi.le .refl .trans fun _ _ h => ih h
  | group i a ih =>
    obtain ⟨r, ha, rfl⟩ := h
    exact (ih ha).close i

variable {a : Pattern} {before : Option Char} {rest : List Char} {m : Match}

/-- What a match is made from. -/
theorem leads_of_match? (h : a.match? before rest = some m) :
    ∃ q, a.Leads ⟨.start before rest, []⟩ q ∧ m = ⟨q.index, q.captures⟩ := by
  obtain ⟨q, hq, rfl⟩ := Option.map_eq_some_iff.mp h
  exact ⟨q, leads_of_mem_ends (List.mem_of_head? hq), rfl⟩

/-- A match is no longer than the text ahead. -/
theorem length_le_of_match? (h : a.match? before rest = some m) : m.length ≤ rest.length := by
  obtain ⟨q, hq, rfl⟩ := leads_of_match? h
  obtain ⟨taken, hrest, hindex⟩ := (follows_of_leads hq).taken
  have hrest : rest = taken ++ q.place.rest := hrest
  have hindex : q.index = 0 + taken.length := hindex
  rw [hrest, List.length_append]
  show q.index ≤ _
  omega

/-- What a group took lies inside the match. -/
theorem span?_bounds (h : a.match? before rest = some m) {group first last : Nat}
    (hs : m.span? group = some (first, last)) : first ≤ last ∧ last ≤ m.length := by
  obtain ⟨q, hq, rfl⟩ := leads_of_match? h
  obtain ⟨c, hc, hcs⟩ := Option.map_eq_some_iff.mp hs
  obtain ⟨rfl, rfl⟩ := Prod.mk.inj hcs
  rcases (follows_of_leads hq).captures c (List.mem_of_find?_eq_some hc) with hnil | ⟨-, h1, h2⟩
  · cases hnil
  · exact ⟨h1, h2⟩

end Pattern

end Highlighter
