/-
# Everything that a pattern can take is found

`Pattern.Takes` says which texts a pattern can take, with no regard to how they are found, and what
is found is always one of them.  Here is the converse: **of every text that a pattern can take there
is an outcome** (`exists_mem_ends_of_takes`), so that a pattern matches just where it can take
something (`match?_eq_none_iff`).

A repetition leaves out places that it has come to before, and nothing is lost with them:

* Without an upper bound, every place it has come to is dealt with in the end (`Found.DealtWith`):
  it is an outcome, and the places one more iteration leads to have been come to as well.
* With an upper bound, the places are told apart by the number of iterations left, and from one that
  has been dealt with, all that so many iterations lead to is among the outcomes
  (`FoundUpTo.Settled`).
-/
import Highlighter.Proofs.Regex.Takes

namespace Highlighter

/-! ## 1. Iterations -/

theorem Repeats.split {R : Option Char → List Char → List Char → Prop} {m n : Nat}
    {before : Option Char} {taken after : List Char} (h : Repeats R (m + n) before taken after) :
    ∃ u v, taken = u ++ v ∧ Repeats R m before u (v ++ after) ∧
      Repeats R n (lastChar? before u) v after := by
  induction n generalizing taken after with
  | zero => exact ⟨taken, [], (List.append_nil _).symm, h, .none _ _⟩
  | succ n ih =>
    rcases h with - | ⟨hearlier, hlast⟩
    obtain ⟨u, v, rfl, hu, hv⟩ := ih hearlier
    rw [lastChar?_append] at hlast
    refine ⟨u, v ++ _, List.append_assoc _ _ _, ?_, .more hv hlast⟩
    rwa [List.append_assoc]

/-- The outcomes of an iteration are those that a relation between texts allows. -/
structure Finds (body : Progress → List Progress)
    (R : Option Char → List Char → List Char → Prop) : Prop where
  took : ∀ p, ∀ q ∈ body p, ∃ taken, p.Took taken q
  found : ∀ (p : Progress) (taken after : List Char), p.place.rest = taken ++ after →
    R p.place.before taken after → ∃ q ∈ body p, p.Took taken q

section Repetition

variable {body : Progress → List Progress} {greedy : Bool}
  {R : Option Char → List Char → List Char → Prop}

theorem Finds.took_of_iterates (hbody : Finds body R) {n : Nat} {p q : Progress}
    (h : Iterates (Iteration body) n p q) : ∃ taken, p.Took taken q :=
  h.le (S := fun p q => ∃ taken, p.Took taken q) (fun p => ⟨[], .refl p⟩)
    (fun _ _ _ ⟨_, h⟩ ⟨_, h'⟩ => ⟨_, h.trans h'⟩) fun p q hq => hbody.took p q hq

/-- What an iteration leads to took all that was taken before, and more. -/
theorem Finds.took_trans (hbody : Finds body R) {p : Progress} :
    ∀ q, (∃ taken, p.Took taken q) → ∀ r ∈ body q, ∃ taken, p.Took taken r := by
  rintro q ⟨taken, hq⟩ r hr
  obtain ⟨more, hmore⟩ := hbody.took q r hr
  exact ⟨taken ++ more, hq.trans hmore⟩

/-- What is found further on lies further on. -/
theorem Finds.rest_lt (hbody : Finds body R) {p q : Progress} (hq : q ∈ body p)
    (hne : q.index ≠ p.index) : q.place.rest.length < p.place.rest.length := by
  obtain ⟨taken, htook⟩ := hbody.took p q hq
  have hindex := htook.index
  rw [htook.rest, List.length_append]
  omega

/-! ## 2. Any number of iterations -/

/-- The place is an outcome, and all places have been come to that one more iteration leads to.  Of
the place where the repetition begins only the first is said. -/
def Found.DealtWith (f : Found) (body : Progress → List Progress) (start i : Nat) : Prop :=
  ∃ x ∈ f.outcomes, x.index = i ∧ (i ≠ start → ∀ q ∈ body x, f.seen.contains q.index = true)

/-- Going on from `f`, the repetition has found `g`: all places new in `g` have been dealt with. -/
structure Found.Onto (body : Progress → List Progress) (start : Nat) (f g : Found) : Prop where
  seen : ∀ i, f.seen.contains i = true → g.seen.contains i = true
  outcomes : ∀ x ∈ f.outcomes, x ∈ g.outcomes
  dealt : ∀ i, g.seen.contains i = true → f.seen.contains i = true ∨ g.DealtWith body start i

section Unbounded

variable {start : Nat} {f g h : Found} {p : Progress}

theorem Found.DealtWith.mono {i : Nat} (hf : f.DealtWith body start i)
    (hseen : ∀ i, f.seen.contains i = true → g.seen.contains i = true)
    (houtcomes : ∀ x ∈ f.outcomes, x ∈ g.outcomes) : g.DealtWith body start i := by
  obtain ⟨x, hx, hindex, hbody⟩ := hf
  exact ⟨x, houtcomes x hx, hindex, fun hne q hq => hseen _ (hbody hne q hq)⟩

theorem Found.Onto.refl (f : Found) : f.Onto body start f :=
  ⟨fun _ h => h, fun _ h => h, fun _ h => Or.inl h⟩

theorem Found.Onto.trans (hfg : f.Onto body start g) (hgh : g.Onto body start h) :
    f.Onto body start h where
  seen i hi := hgh.seen i (hfg.seen i hi)
  outcomes x hx := hgh.outcomes x (hfg.outcomes x hx)
  dealt i hi := by
    rcases hgh.dealt i hi with hi | hi
    · exact (hfg.dealt i hi).imp_right fun hd => hd.mono hgh.seen hgh.outcomes
    · exact Or.inr hi

theorem Found.onto_foldl {step : Found → Progress → Found} {os : List Progress}
    (hstep : ∀ q ∈ os, ∀ f : Found, f.Onto body start (step f q)) (f : Found) :
    f.Onto body start (os.foldl step f) := by
  induction os generalizing f with
  | nil => exact .refl f
  | cons q os ih =>
    obtain ⟨hq, hos⟩ := List.forall_mem_cons.mp hstep
    exact (hq f).trans (ih hos (step f q))

theorem Found.contains_foldl {step : Found → Progress → Found} {os : List Progress}
    (hstep : ∀ q ∈ os, ∀ f : Found, f.Onto body start (step f q)) {q : Progress} (hq : q ∈ os)
    (hcontains : ∀ f, (step f q).seen.contains q.index = true) (f : Found) :
    (os.foldl step f).seen.contains q.index = true := by
  obtain ⟨earlier, later, rfl⟩ := List.append_of_mem hq
  rw [List.foldl_append, List.foldl_cons]
  exact (onto_foldl (fun r hr => hstep r (List.mem_append_right _ (List.mem_cons_of_mem _ hr)))
    _).seen _ (hcontains _)

/-- A place is dealt with when it is an outcome and one more iteration from it leads to no new
place.  Here `opened` has come to the place `o`, going on from `opened` finds `g`, and `closed` is
`g` with the place itself as an outcome. -/
theorem Found.onto_of_body {opened closed : Found} {o : Progress}
    (honto : opened.Onto body start g)
    (hopened : ∀ i, opened.seen.contains i = true → f.seen.contains i = true ∨ i = o.index)
    (hf : ∀ i, f.seen.contains i = true → opened.seen.contains i = true)
    (hearlier : ∀ x ∈ f.outcomes, x ∈ opened.outcomes)
    (hbodies : ∀ q ∈ body o, g.seen.contains q.index = true) (hseen : closed.seen = g.seen)
    (hkept : ∀ x ∈ g.outcomes, x ∈ closed.outcomes) (ho : o ∈ closed.outcomes) :
    f.Onto body start closed where
  seen i hi := hseen ▸ honto.seen i (hf i hi)
  outcomes x hx := hkept x (honto.outcomes x (hearlier x hx))
  dealt i hi := by
    rw [hseen] at hi
    rcases honto.dealt i hi with hi | hi
    · refine (hopened i hi).imp_right fun hi => ⟨o, ho, hi.symm, fun _ q hq => ?_⟩
      exact hseen ▸ hbodies q hq
    · exact Or.inr (hi.mono (fun i hi => hseen ▸ hi) hkept)

/-- **Going on from a place deals with it**, and with every place that is come to for the first time
on the way.  By induction on the fuel. -/
theorem iterateFrom_onto (hbody : Finds body R) {fuel : List Char} {f : Found} {o : Progress}
    (hfuel : o.place.rest.length < fuel.length) :
    f.Onto body start (iterateFrom body greedy fuel f o) ∧
      (iterateFrom body greedy fuel f o).seen.contains o.index = true := by
  induction fuel generalizing f o with
  | nil => cases hfuel
  | cons c fuel ih =>
    rw [iterateFrom]
    split
    · exact ⟨.refl f, ‹_›⟩
    · rw [List.length_cons] at hfuel
      dsimp only
      generalize hstep : (fun f q => if q.index == o.index then f
        else iterateFrom body greedy fuel f q : Found → Progress → Found) = step
      -- From all other places that one iteration leads to the search goes on.
      have hsame : ∀ q, q.index = o.index → ∀ f, step f q = f := by
        intro q hq f
        rw [← hstep]
        exact if_pos (beq_iff_eq.mpr hq)
      have hother : ∀ q ∈ body o, q.index ≠ o.index → ∀ f : Found,
          f.Onto body start (step f q) ∧ (step f q).seen.contains q.index = true := by
        intro q hq hne f
        have hlt := hbody.rest_lt hq hne
        rw [← hstep]
        dsimp only
        rw [if_neg (by simpa using hne)]
        exact ih (by omega)
      have hall : ∀ q ∈ body o, ∀ f : Found, f.Onto body start (step f q) := by
        intro q hq f
        by_cases hne : q.index = o.index
        · rw [hsame q hne f]
          exact .refl f
        · exact (hother q hq hne f).1
      have hbodies : ∀ opened : Found, opened.seen.contains o.index = true →
          ∀ q ∈ body o, ((body o).foldl step opened).seen.contains q.index = true := by
        intro opened ho q hq
        by_cases hne : q.index = o.index
        · exact hne ▸ (Found.onto_foldl hall opened).seen _ ho
        · exact Found.contains_foldl hall hq (fun f => (hother q hq hne f).2) opened
      have hcontains : (f.seen.insert o.index).contains o.index = true := by simp
      have hopened : ∀ i, (f.seen.insert o.index).contains i = true →
          f.seen.contains i = true ∨ i = o.index := by
        intro i hi
        rw [IndexSet.contains_insert, Bool.or_eq_true, decide_eq_true_eq] at hi
        exact hi.imp_right Eq.symm
      have hf : ∀ i, f.seen.contains i = true → (f.seen.insert o.index).contains i = true := by
        intro i hi
        simp [hi]
      cases greedy with
      | true =>
        have honto := Found.onto_foldl hall ⟨f.seen.insert o.index, f.outcomes⟩
        exact ⟨Found.onto_of_body honto hopened hf (fun _ hx => hx) (hbodies _ hcontains) rfl
          (fun _ hx => List.mem_cons_of_mem o hx) List.mem_cons_self, honto.seen _ hcontains⟩
      | false =>
        have honto := Found.onto_foldl hall ⟨f.seen.insert o.index, o :: f.outcomes⟩
        exact ⟨Found.onto_of_body honto hopened hf (fun _ hx => List.mem_cons_of_mem o hx)
          (hbodies _ hcontains) rfl (fun _ hx => hx) (honto.outcomes o List.mem_cons_self),
          honto.seen _ hcontains⟩

/-- The places that one iteration leads to have been come to, and all places come to have been dealt
with. -/
structure Found.Closed (g : Found) (body : Progress → List Progress) (p : Progress) : Prop where
  first : ∀ q ∈ body p, g.seen.contains q.index = true
  dealt : ∀ i, g.seen.contains i = true → g.DealtWith body p.index i

theorem Found.add_onto (f : Found) (o : Progress) :
    f.Onto body o.index (f.add o) ∧ (f.add o).seen.contains o.index = true := by
  unfold Found.add
  split
  · exact ⟨.refl f, ‹_›⟩
  · refine ⟨⟨fun i hi => ?_, fun x hx => List.mem_cons_of_mem o hx, fun i hi => ?_⟩, ?_⟩
    · simp [hi]
    · rw [IndexSet.contains_insert, Bool.or_eq_true, decide_eq_true_eq] at hi
      refine hi.imp_right fun hi => ⟨o, List.mem_cons_self, hi, fun hne => ?_⟩
      exact absurd hi.symm hne
    · simp

theorem oneOrMore_onto (hbody : Finds body R) (f : Found) (p : Progress) :
    f.Onto body p.index (oneOrMore body greedy f p) ∧
      ∀ q ∈ body p, (oneOrMore body greedy f p).seen.contains q.index = true := by
  have hstep : ∀ q ∈ body p, ∀ f : Found,
      f.Onto body p.index
        (if q.index == p.index then f.add q else iterateFrom body greedy p.place.rest f q) ∧
      (if q.index == p.index then f.add q
        else iterateFrom body greedy p.place.rest f q).seen.contains q.index = true := by
    intro q hq f
    split
    · rename_i hindex
      rw [← beq_iff_eq.mp hindex]
      exact f.add_onto q
    · rename_i hne
      exact iterateFrom_onto hbody (hbody.rest_lt hq (by simpa using hne))
  have honto := fun q hq f => (hstep q hq f).1
  exact ⟨Found.onto_foldl honto f,
    fun q hq => Found.contains_foldl honto hq (fun f => (hstep q hq f).2) f⟩

theorem closed_oneOrMore (hbody : Finds body R) (p : Progress) :
    (oneOrMore body greedy .none p).Closed body p := by
  obtain ⟨honto, hfirst⟩ := oneOrMore_onto hbody .none p
  refine ⟨hfirst, fun i hi => (honto.dealt i hi).resolve_left fun hnone => ?_⟩
  simp [Found.none] at hnone

theorem closed_zeroOrMore (hbody : Finds body R) (p : Progress) :
    (zeroOrMore body greedy p).Closed body p ∧
      (zeroOrMore body greedy p).seen.contains p.index = true := by
  -- The place before the repetition is added, be it before or after the others.
  obtain ⟨honto, hfirst, hp⟩ : Found.none.Onto body p.index (zeroOrMore body greedy p) ∧
      (∀ q ∈ body p, (zeroOrMore body greedy p).seen.contains q.index = true) ∧
        (zeroOrMore body greedy p).seen.contains p.index = true := by
    unfold zeroOrMore
    split
    · obtain ⟨hone, hfirst⟩ := oneOrMore_onto hbody .none p
      obtain ⟨hadd, hp⟩ := (oneOrMore body greedy .none p).add_onto p
      exact ⟨hone.trans hadd, fun q hq => hadd.seen _ (hfirst q hq), hp⟩
    · obtain ⟨hadd, hp⟩ := Found.none.add_onto p
      obtain ⟨hone, hfirst⟩ := oneOrMore_onto hbody (Found.none.add p) p
      exact ⟨hadd.trans hone, hfirst, hone.seen _ hp⟩
  refine ⟨⟨hfirst, fun i hi => (honto.dealt i hi).resolve_left fun hnone => ?_⟩, hp⟩
  simp [Found.none] at hnone

/-- **Every place that iterations lead to has been come to**, if all places have been dealt with.
By induction on the number of iterations. -/
theorem Found.Closed.contains_of_repeats (hg : g.Closed body p) (hbody : Finds body R)
    (hall : g.All fun x => ∃ taken, p.Took taken x) {n : Nat} {taken after : List Char}
    (hrest : p.place.rest = taken ++ after)
    (hrepeats : Repeats R (n + 1) p.place.before taken after) :
    g.seen.contains (p.index + taken.length) = true := by
  induction n generalizing taken after with
  | zero =>
    rcases hrepeats with - | ⟨hnone, hlast⟩
    rcases hnone with - | -
    rw [lastChar?_nil] at hlast
    obtain ⟨q, hq, htook⟩ := hbody.found p _ after hrest hlast
    exact htook.index ▸ hg.first q hq
  | succ n ih =>
    rcases hrepeats with - | ⟨hearlier, hlast⟩
    rename_i u v
    rw [List.append_assoc] at hrest
    obtain ⟨x, hx, hindex, hnext⟩ := hg.dealt _ (ih hrest hearlier)
    by_cases hstart : p.index + u.length = p.index
    · -- The iterations so far have taken nothing, so the last one may as well be the first.
      obtain rfl : u = [] := List.eq_nil_of_length_eq_zero (by omega)
      rw [lastChar?_nil] at hlast
      obtain ⟨q, hq, htook⟩ := hbody.found p v after hrest hlast
      exact htook.index ▸ hg.first q hq
    · obtain ⟨taken, htook⟩ := hall x hx
      have hu := htook.of_index hrest hindex
      obtain ⟨q, hq, htook'⟩ := hbody.found x v after (hu.rest_eq hrest) (hu.before ▸ hlast)
      have hq' := hnext hstart q hq
      rwa [htook'.index, hindex, Nat.add_assoc, ← List.length_append] at hq'

end Unbounded

/-! ## 3. So many iterations at most -/

namespace FoundUpTo

/-- All that so many iterations from a place lead to is among the outcomes. -/
def Has (f : FoundUpTo) (R : Option Char → List Char → List Char → Prop) (left : Nat)
    (o : Progress) : Prop :=
  ∀ n taken after, n ≤ left → o.place.rest = taken ++ after →
    Repeats R n o.place.before taken after → ∃ x ∈ f.outcomes, x.index = o.index + taken.length

/-- From each place that has been come to with a number of iterations left, all that so many lead to
is among the outcomes. -/
def Settled (R : Option Char → List Char → List Char → Prop) (p : Progress) :
    (left : Nat) → FoundUpTo → Prop
  | 0, _ => True
  | left + 1, f =>
    (∀ o, (∃ taken, p.Took taken o) → (f.seen.headD .empty).contains o.index = true →
      f.Has R (left + 1) o) ∧
    Settled R p left ⟨f.seen.tail, f.outcomes⟩

end FoundUpTo

section Bounded

variable {p : Progress}

theorem FoundUpTo.Has.mono {f g : FoundUpTo} {left : Nat} {o : Progress} (hf : f.Has R left o)
    (houtcomes : ∀ x ∈ f.outcomes, x ∈ g.outcomes) : g.Has R left o := by
  intro n taken after hn hrest hrepeats
  obtain ⟨x, hx, hindex⟩ := hf n taken after hn hrest hrepeats
  exact ⟨x, houtcomes x hx, hindex⟩

theorem FoundUpTo.Settled.mono {left : Nat} {seen : List IndexSet} {os os' : List Progress}
    (h : Settled R p left ⟨seen, os⟩) (houtcomes : ∀ x ∈ os, x ∈ os') :
    Settled R p left ⟨seen, os'⟩ := by
  induction left generalizing seen with
  | zero => trivial
  | succ left ih =>
    exact ⟨fun o ho hseen => (h.1 o ho hseen).mono houtcomes, ih h.2⟩

/-- To begin with, nothing has been come to. -/
theorem FoundUpTo.settled_nil (p : Progress) (left : Nat) :
    FoundUpTo.Settled R p left ⟨[], []⟩ := by
  induction left with
  | zero => trivial
  | succ left ih =>
    refine ⟨fun o _ hseen => ?_, ih⟩
    rw [List.headD_nil, IndexSet.contains_empty] at hseen
    cases hseen

/-- What holds of going on from one place holds of going on from several, one after the other. -/
theorem FoundUpTo.settled_foldl {step : FoundUpTo → Progress → FoundUpTo} {left : Nat}
    {os : List Progress}
    (hstep : ∀ q ∈ os, ∀ f : FoundUpTo, f.Settled R p left → (step f q).Settled R p left ∧
      (∀ x ∈ f.outcomes, x ∈ (step f q).outcomes) ∧ (step f q).Has R left q)
    {f : FoundUpTo} (hf : f.Settled R p left) :
    (os.foldl step f).Settled R p left ∧ (∀ x ∈ f.outcomes, x ∈ (os.foldl step f).outcomes) ∧
      ∀ q ∈ os, (os.foldl step f).Has R left q := by
  induction os generalizing f with
  | nil => exact ⟨hf, fun _ hx => hx, List.forall_mem_nil _⟩
  | cons q os ih =>
    obtain ⟨hq, hos⟩ := List.forall_mem_cons.mp hstep
    obtain ⟨hsettled, houtcomes, hhas⟩ := hq f hf
    obtain ⟨hsettled', houtcomes', hhas'⟩ := ih hos hsettled
    exact ⟨hsettled', fun x hx => houtcomes' x (houtcomes x hx),
      List.forall_mem_cons.mpr ⟨hhas.mono houtcomes', hhas'⟩⟩

/-- With one more iteration left: either none is made, or all is found from where it leads. -/
theorem FoundUpTo.Has.succ (hbody : Finds body R) {f : FoundUpTo} {left : Nat} {o : Progress}
    (ho : o ∈ f.outcomes) (hnext : ∀ q ∈ body o, f.Has R left q) : f.Has R (left + 1) o := by
  intro n taken after hn hrest hrepeats
  cases n with
  | zero =>
    rcases hrepeats with - | -
    exact ⟨o, ho, rfl⟩
  | succ n =>
    rw [Nat.add_comm] at hrepeats
    obtain ⟨u, v, rfl, hone, hothers⟩ := hrepeats.split
    rcases hone with - | ⟨hnone, hfirst⟩
    rcases hnone with - | -
    rw [lastChar?_nil] at hfirst
    rw [List.append_assoc] at hrest
    obtain ⟨q, hq, htook⟩ := hbody.found o _ _ hrest hfirst
    obtain ⟨x, hx, hindex⟩ := hnext q hq n v after (Nat.le_of_succ_le_succ hn)
      (htook.rest_eq hrest) (htook.before ▸ hothers)
    refine ⟨x, hx, ?_⟩
    rw [hindex, htook.index, List.nil_append, List.length_append, Nat.add_assoc]

/-- **Going on from a place finds all that so many iterations from it lead to.**  By induction on
their number. -/
theorem upTo_settled (hbody : Finds body R) {left : Nat} {f : FoundUpTo} {o : Progress}
    (ho : ∃ taken, p.Took taken o) (hf : f.Settled R p left) :
    (upTo body greedy left f o).Settled R p left ∧
      (∀ x ∈ f.outcomes, x ∈ (upTo body greedy left f o).outcomes) ∧
      (upTo body greedy left f o).Has R left o := by
  induction left generalizing f o with
  | zero =>
    refine ⟨trivial, fun x hx => List.mem_cons_of_mem o hx, fun n taken after hn _ hrepeats => ?_⟩
    obtain rfl := Nat.le_zero.mp hn
    rcases hrepeats with - | -
    exact ⟨o, List.mem_cons_self, rfl⟩
  | succ left ih =>
    rw [upTo]
    dsimp only
    split
    · exact ⟨hf, fun _ hx => hx, hf.1 o ho ‹_›⟩
    · obtain ⟨taken, htook⟩ := ho
      have hstep : ∀ q ∈ body o, ∀ f : FoundUpTo, f.Settled R p left →
          (upTo body greedy left f q).Settled R p left ∧
          (∀ x ∈ f.outcomes, x ∈ (upTo body greedy left f q).outcomes) ∧
          (upTo body greedy left f q).Has R left q := by
        intro q hq f hf
        obtain ⟨more, hmore⟩ := hbody.took o q hq
        exact ih ⟨taken ++ more, htook.trans hmore⟩ hf
      have hopened : FoundUpTo.Settled R p left
          ⟨f.seen.tail, if greedy = true then f.outcomes else o :: f.outcomes⟩ := by
        refine hf.2.mono fun x hx => ?_
        split
        · exact hx
        · exact List.mem_cons_of_mem o hx
      obtain ⟨hsettled, houtcomes, hhas⟩ := FoundUpTo.settled_foldl hstep hopened
      revert hsettled houtcomes hhas
      generalize (body o).foldl (upTo body greedy left) _ = g
      intro hsettled houtcomes hhas
      -- Be it before or after the others, the place itself is among the outcomes.
      generalize hos : (if greedy = true then o :: g.outcomes else g.outcomes) = os
      have hkept : ∀ x ∈ g.outcomes, x ∈ os := by
        intro x hx
        rw [← hos]
        split
        · exact List.mem_cons_of_mem o hx
        · exact hx
      have hearlier : ∀ x ∈ f.outcomes, x ∈ os := by
        intro x hx
        refine hkept x (houtcomes x ?_)
        dsimp only
        split
        · exact hx
        · exact List.mem_cons_of_mem o hx
      have hmem : o ∈ os := by
        rw [← hos]
        split
        · exact List.mem_cons_self
        · rename_i hlazy
          refine houtcomes o ?_
          rw [if_neg hlazy]
          exact List.mem_cons_self
      have hhas' : FoundUpTo.Has ⟨(f.seen.headD .empty).insert o.index :: g.seen, os⟩ R (left + 1)
          o := .succ hbody hmem fun q hq => (hhas q hq).mono hkept
      refine ⟨⟨fun o' ho' hseen => ?_, hsettled.mono hkept⟩, hearlier, hhas'⟩
      rw [List.headD_cons, IndexSet.contains_insert, Bool.or_eq_true, decide_eq_true_eq] at hseen
      rcases hseen with hseen | hindex
      · exact (hf.1 o' ho' hseen).mono hearlier
      · -- Another outcome at the same place.
        obtain ⟨taken', htook'⟩ := ho'
        have hplace := htook.place_eq htook' hindex
        intro n taken after hn hrest hrepeats
        rw [← hplace] at hrest hrepeats
        rw [← hindex]
        exact hhas' n taken after hn hrest hrepeats

end Bounded

/-! ## 4. All repetitions -/

/-- The last iteration goes on from where the others lead. -/
theorem exactly_succ (body : Progress → List Progress) (n : Nat) (os : List Progress) :
    exactly body (n + 1) os = goOn (exactly body n os) body := by
  induction n generalizing os with
  | zero => cases os <;> rfl
  | succ n ih =>
    cases os with
    | nil => rfl
    | cons o os =>
      rw [exactly, ih, exactly]

theorem exists_mem_exactly (hbody : Finds body R) {n : Nat} {p : Progress} {taken after : List Char}
    (hrest : p.place.rest = taken ++ after) (h : Repeats R n p.place.before taken after) :
    ∃ q ∈ exactly body n [p], p.Took taken q := by
  induction n generalizing taken after with
  | zero =>
    rcases h with - | -
    exact ⟨p, List.mem_singleton_self p, .refl p⟩
  | succ n ih =>
    rcases h with - | ⟨hearlier, hlast⟩
    have hrest' := hrest
    rw [List.append_assoc] at hrest'
    obtain ⟨q, hq, htook⟩ := ih hrest' hearlier
    obtain ⟨r, hr, htook'⟩ := hbody.found q _ after (htook.rest_eq hrest') (htook.before ▸ hlast)
    obtain ⟨r', hr', hindex⟩ := exists_mem_goOn hq hr
    rw [← exactly_succ] at hr'
    obtain ⟨o, ho, hi⟩ := exactly_outcomes hr'
    obtain rfl := List.mem_singleton.mp ho
    obtain ⟨_, htook''⟩ := hbody.took_of_iterates hi
    exact ⟨r', hr', htook''.of_index hrest (hindex.trans (htook.trans htook').index)⟩

/-- So many iterations, and what goes on from there. -/
theorem exists_mem_goOn_exactly (hbody : Finds body R) {m n : Nat} {p : Progress}
    {taken after : List Char} (hrest : p.place.rest = taken ++ after)
    (h : Repeats R (m + n) p.place.before taken after) {next : Progress → List Progress}
    (hnext : ∀ (q : Progress) (v : List Char), q.place.rest = v ++ after →
      Repeats R n q.place.before v after → ∃ x ∈ next q, x.index = q.index + v.length) :
    ∃ x ∈ goOn (exactly body m [p]) next, x.index = p.index + taken.length := by
  obtain ⟨u, v, rfl, hu, hv⟩ := h.split
  rw [List.append_assoc] at hrest
  obtain ⟨q, hq, htook⟩ := exists_mem_exactly hbody hrest hu
  obtain ⟨x, hx, hindex⟩ := hnext q v (htook.rest_eq hrest) (htook.before ▸ hv)
  obtain ⟨y, hy, hindex'⟩ := exists_mem_goOn hq hx
  refine ⟨y, hy, ?_⟩
  rw [hindex', hindex, htook.index, List.length_append, Nat.add_assoc]

theorem exists_mem_upTo (hbody : Finds body R) {left n : Nat} {p : Progress}
    {taken after : List Char} (hn : n ≤ left) (hrest : p.place.rest = taken ++ after)
    (h : Repeats R n p.place.before taken after) :
    ∃ x ∈ distinct (upTo body greedy left ⟨[], []⟩ p).outcomes.reverse,
      x.index = p.index + taken.length := by
  have hhas : (upTo body greedy left ⟨[], []⟩ p).Has R left p :=
    (upTo_settled hbody ⟨[], .refl p⟩ (FoundUpTo.settled_nil (R := R) p left)).2.2
  obtain ⟨x, hx, hindex⟩ := hhas n taken after hn hrest h
  obtain ⟨y, hy, hindex'⟩ := exists_mem_distinct (List.mem_reverse.mpr hx)
  exact ⟨y, hy, hindex'.trans hindex⟩

theorem exists_mem_oneOrMore (hbody : Finds body R) {n : Nat} {p : Progress}
    {taken after : List Char} (hrest : p.place.rest = taken ++ after)
    (h : Repeats R (n + 1) p.place.before taken after) :
    ∃ x ∈ (oneOrMore body greedy .none p).outcomes.reverse,
      x.index = p.index + taken.length := by
  have hclosed : (oneOrMore body greedy .none p).Closed body p := closed_oneOrMore hbody p
  have hall : (oneOrMore body greedy .none p).All fun x => ∃ taken, p.Took taken x :=
    oneOrMore_all hbody.took_trans Found.all_none (hbody.took p)
  obtain ⟨x, hx, hindex, -⟩ :=
    hclosed.dealt _ (hclosed.contains_of_repeats hbody hall hrest h)
  exact ⟨x, List.mem_reverse.mpr hx, hindex⟩

theorem exists_mem_zeroOrMore (hbody : Finds body R) {n : Nat} {p : Progress}
    {taken after : List Char} (hrest : p.place.rest = taken ++ after)
    (h : Repeats R n p.place.before taken after) :
    ∃ x ∈ (zeroOrMore body greedy p).outcomes.reverse, x.index = p.index + taken.length := by
  obtain ⟨hclosed, hp⟩ : (zeroOrMore body greedy p).Closed body p ∧
      (zeroOrMore body greedy p).seen.contains p.index = true := closed_zeroOrMore hbody p
  have hall : (zeroOrMore body greedy p).All fun x => ∃ taken, p.Took taken x :=
    zeroOrMore_all hbody.took_trans ⟨[], .refl p⟩
  have hseen : (zeroOrMore body greedy p).seen.contains (p.index + taken.length) = true := by
    cases n with
    | zero =>
      rcases h with - | -
      exact hp
    | succ n => exact hclosed.contains_of_repeats hbody hall hrest h
  obtain ⟨x, hx, hindex, -⟩ := hclosed.dealt _ hseen
  exact ⟨x, List.mem_reverse.mpr hx, hindex⟩

/-- **All that a number of iterations within the bounds leads to is found.** -/
theorem exists_mem_iterations (hbody : Finds body R) {min : Nat} {max : Option Nat} {n : Nat}
    {p : Progress} {taken after : List Char} (hmin : min ≤ n)
    (hmax : ∀ m, max = some m → n ≤ Max.max min m) (hrest : p.place.rest = taken ++ after)
    (h : Repeats R n p.place.before taken after) :
    ∃ x ∈ iterations body greedy min max p, x.index = p.index + taken.length := by
  obtain ⟨more, rfl⟩ := Nat.exists_eq_add_of_le hmin
  unfold iterations
  split
  · rename_i max
    have hle := hmax max rfl
    exact exists_mem_goOn_exactly hbody hrest h fun q v hv hrepeats =>
      exists_mem_upTo hbody (by omega) hv hrepeats
  · split
    · exact exists_mem_zeroOrMore hbody hrest h
    · rename_i min
      have hlast : min + 1 + more = min + (more + 1) := by omega
      rw [hlast] at h
      exact exists_mem_goOn_exactly hbody hrest h fun q v hv hrepeats =>
        exists_mem_oneOrMore hbody hv hrepeats

end Repetition

/-! ## 5. Patterns -/

namespace Pattern

variable {a : Pattern} {before : Option Char} {taken after rest : List Char}

/-- **Of what a pattern can take there is an outcome.**  It need not have taken the same parts, as
of several outcomes with one end only the first is kept.  By induction on the pattern. -/
theorem exists_mem_ends_of_takes {p : Progress} (hrest : p.place.rest = taken ++ after)
    (h : a.Takes p.place.before taken after) : ∃ q ∈ a.ends p, p.Took taken q := by
  induction a generalizing p taken after with
  | empty =>
    obtain rfl : taken = [] := h
    exact ⟨p, List.mem_singleton_self p, .refl p⟩
  | set s =>
    obtain ⟨c, hc, rfl⟩ := h
    have hnext : p.place.next? = some (c, ⟨p.place.index + 1, some c, after⟩) := by
      rw [Place.next?, hrest]
      rfl
    exact ⟨_, by simp [ends, hnext, hc], .next? hnext⟩
  | look a =>
    obtain ⟨rfl, hlook⟩ := h
    have hholds : a.holds p.place = true := by
      rw [Assertion.holds, Place.ahead, hrest]
      exact hlook
    exact ⟨p, by simp [ends, hholds], .refl p⟩
  | seq a b iha ihb =>
    obtain ⟨u, v, rfl, hu, hv⟩ := h
    have hrest' := hrest
    rw [List.append_assoc] at hrest'
    obtain ⟨q, hq, htook⟩ := iha hrest' hu
    obtain ⟨r, hr, htook'⟩ := ihb (htook.rest_eq hrest') (htook.before ▸ hv)
    obtain ⟨r', hr', hindex⟩ := exists_mem_goOn hq hr
    obtain ⟨_, htook''⟩ := exists_took_of_mem_ends (a := seq a b) hr'
    exact ⟨r', hr', htook''.of_index hrest (hindex.trans (htook.trans htook').index)⟩
  | alt a b iha ihb =>
    obtain ⟨q, hq, htook⟩ : ∃ q, (q ∈ a.ends p ∨ q ∈ b.ends p) ∧ p.Took taken q := by
      rcases h with h | h
      · obtain ⟨q, hq, htook⟩ := iha hrest h
        exact ⟨q, Or.inl hq, htook⟩
      · obtain ⟨q, hq, htook⟩ := ihb hrest h
        exact ⟨q, Or.inr hq, htook⟩
    obtain ⟨q', hq', hindex⟩ := exists_mem_orElse hq
    obtain ⟨_, htook'⟩ := exists_took_of_mem_ends (a := alt a b) hq'
    exact ⟨q', hq', htook'.of_index hrest (hindex.trans htook.index)⟩
  | repeated a min max greedy ih =>
    obtain ⟨n, hmin, hmax, hrepeats⟩ := h
    have hbody : Finds a.ends a.Takes :=
      ⟨fun _ _ hq => exists_took_of_mem_ends hq, fun _ _ _ hrest h => ih hrest h⟩
    obtain ⟨q, hq, hindex⟩ := exists_mem_iterations hbody hmin hmax hrest hrepeats
    obtain ⟨_, htook⟩ := exists_took_of_mem_ends (a := repeated a min max greedy) hq
    exact ⟨q, hq, htook.of_index hrest hindex⟩
  | group i a ih =>
    obtain ⟨q, hq, htook⟩ := ih hrest h
    exact ⟨_, List.mem_map_of_mem hq, ⟨htook.rest, htook.before, htook.index⟩⟩

/-- **A pattern matches just where it can take something.** -/
theorem match?_eq_none_iff : a.match? before rest = none ↔
    ∀ taken after, rest = taken ++ after → ¬ a.Takes before taken after := by
  constructor
  · rintro hnone taken after rfl htakes
    obtain ⟨q, hq, -⟩ :=
      exists_mem_ends_of_takes (p := ⟨.start before (taken ++ after), []⟩) rfl htakes
    rw [match?, Option.map_eq_none_iff, List.head?_eq_none_iff] at hnone
    exact List.ne_nil_of_mem hq hnone
  · intro hnone
    refine Option.eq_none_iff_forall_ne_some.mpr fun m hm => ?_
    exact hnone _ _ (List.take_append_drop m.length rest).symm (takes_of_match? hm)

theorem match?_ne_none_iff : a.match? before rest ≠ none ↔
    ∃ taken after, rest = taken ++ after ∧ a.Takes before taken after := by
  rw [Ne, match?_eq_none_iff]
  simp only [Classical.not_forall, Classical.not_not, exists_prop]

end Pattern

end Highlighter
