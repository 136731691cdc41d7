/-
# Matching by backtracking

`Pattern.ends` lists all outcomes of a pattern, with one outcome for each end and, in a repetition,
with the places that have been seen left out.  What a match comes to is simpler to say: of two ways
the second is tried where the first leads nowhere, and a repetition goes on and stops where that
leads nowhere, or the other way round.  `Pattern.find` is what the rest of a pattern (`next`) makes
of the first outcome of which it makes anything, and **it obeys the laws of backtracking**:
`find_seq`, `find_alt`, `find_optional`, `find_greedy`, `find_lazy`.

* An outcome that is left out has the same place as one that is kept, and groups that were closed
  before do not change what a pattern finds (`ends_behind`).
* A place that has been seen has been dealt with: if no outcome so far leads on, none does from
  there (`Found.Settled`), so that leaving it out loses nothing (`first_iterateFrom`).  The places
  from which the search still goes on are the exception, but no iteration comes back to them.
-/
import Highlighter.Proofs.Regex.Captures
import Highlighter.Proofs.Regex.Preferred

namespace Highlighter

/-! ## 1. The first outcome that leads on -/

section

variable {α : Type} {k : Progress → Option α}

/-- Leaving out what has an end seen before changes nothing, if nothing was found from there. -/
theorem findSome?_distinctFrom {seen : IndexSet} {os : List Progress}
    (hseen : ∀ o ∈ os, seen.contains o.index = true → k o = none)
    (hsame : ∀ o ∈ os, ∀ o' ∈ os, o.index = o'.index → k o = k o') :
    (distinctFrom seen os).findSome? k = os.findSome? k := by
  induction os generalizing seen with
  | nil => rfl
  | cons o os ih =>
    obtain ⟨ho, hos⟩ := List.forall_mem_cons.mp hseen
    have hsame' : ∀ x ∈ os, ∀ y ∈ os, x.index = y.index → k x = k y := fun x hx y hy =>
      hsame x (List.mem_cons_of_mem o hx) y (List.mem_cons_of_mem o hy)
    rw [distinctFrom, List.findSome?_cons]
    split
    · rename_i hmem
      rw [ho hmem, ih hos hsame']
    · rw [List.findSome?_cons]
      cases hk : k o with
      | some x => rfl
      | none =>
        refine ih (fun x hx hcontains => ?_) hsame'
        rw [IndexSet.contains_insert, Bool.or_eq_true, decide_eq_true_eq] at hcontains
        rcases hcontains with hcontains | hindex
        · exact hos x hx hcontains
        · exact (hsame o List.mem_cons_self x (List.mem_cons_of_mem o hx) hindex) ▸ hk

theorem findSome?_distinct {os : List Progress}
    (hsame : ∀ o ∈ os, ∀ o' ∈ os, o.index = o'.index → k o = k o') :
    (distinct os).findSome? k = os.findSome? k :=
  findSome?_distinctFrom (fun o _ h => by rw [IndexSet.contains_empty] at h; cases h) hsame

theorem findSome?_flatMap (os : List Progress) (next : Progress → List Progress) :
    (os.flatMap next).findSome? k = os.findSome? fun o => (next o).findSome? k := by
  induction os with
  | nil => rfl
  | cons o os ih =>
    rw [List.flatMap_cons, List.findSome?_append, ih, List.findSome?_cons]
    cases (next o).findSome? k <;> rfl

theorem findSome?_goOn {os : List Progress} {next : Progress → List Progress}
    (hsame : ∀ o ∈ os.flatMap next, ∀ o' ∈ os.flatMap next, o.index = o'.index → k o = k o') :
    (goOn os next).findSome? k = os.findSome? fun o => (next o).findSome? k := by
  unfold goOn
  split
  · rfl
  · rw [List.findSome?_cons, List.findSome?_nil]
    cases (next _).findSome? k <;> rfl
  · rw [findSome?_distinct hsame, findSome?_flatMap]

theorem findSome?_orElse {os others : List Progress}
    (hsame : ∀ o ∈ os ++ others, ∀ o' ∈ os ++ others, o.index = o'.index → k o = k o') :
    (orElse os others).findSome? k = (os.findSome? k).or (others.findSome? k) := by
  unfold orElse
  split
  · rfl
  · exact (Option.or_none).symm
  · rw [findSome?_distinct hsame, List.findSome?_append]

end

namespace Pattern

/-- What `next` makes of the first outcome of which it makes anything.  It sees only the place that
the outcome has come to. -/
def find {α : Type} (a : Pattern) (p : Place) (next : Place → Option α) : Option α :=
  (a.ends ⟨p, []⟩).findSome? fun q => next q.place

section

variable {α : Type} {a b : Pattern} {p : Place} {next : Place → Option α}

/-- Wherever the outcomes of a pattern go on from, groups closed before do not matter. -/
theorem findSome?_ends (a : Pattern) (q : Progress) (next : Place → Option α) :
    ((a.ends q).findSome? fun r => next r.place) = a.find q.place next := by
  have hbehind : q = (⟨q.place, []⟩ : Progress).behind q.captures := rfl
  rw [hbehind, ends_behind, List.findSome?_map]
  rfl

/-- Of outcomes on the same way, those with the same end lead on alike. -/
theorem next_eq_of_took {p : Progress} {os : List Progress}
    (htook : ∀ o ∈ os, ∃ taken, p.Took taken o) :
    ∀ o ∈ os, ∀ o' ∈ os, o.index = o'.index → next o.place = next o'.place := by
  intro o ho o' ho' hindex
  obtain ⟨_, ho⟩ := htook o ho
  obtain ⟨_, ho'⟩ := htook o' ho'
  rw [ho.place_eq ho' hindex]

/-- What is found is found after a text that the pattern takes. -/
theorem exists_of_find {x : α} (h : a.find p next = some x) :
    ∃ taken after, p.rest = taken ++ after ∧ a.Takes p.before taken after ∧
      next ⟨p.index + taken.length, lastChar? p.before taken, after⟩ = some x := by
  obtain ⟨q, hq, hnext⟩ := List.exists_of_findSome?_eq_some h
  obtain ⟨taken, htook, htakes⟩ := exists_takes_of_leads (leads_of_mem_ends hq)
  refine ⟨taken, q.place.rest, htook.rest, htakes, ?_⟩
  have hplace : q.place = ⟨p.index + taken.length, lastChar? p.before taken, q.place.rest⟩ := by
    have hindex : q.place.index = p.index + taken.length := htook.index
    have hbefore : q.place.before = lastChar? p.before taken := htook.before
    rw [← hindex, ← hbefore]
  rwa [← hplace]

theorem find_congr {next' : Place → Option α}
    (h : ∀ q ∈ a.ends ⟨p, []⟩, next q.place = next' q.place) :
    a.find p next = a.find p next' := by
  rw [find, find]
  generalize a.ends ⟨p, []⟩ = os at h
  induction os with
  | nil => rfl
  | cons o os ih =>
    obtain ⟨ho, hos⟩ := List.forall_mem_cons.mp h
    rw [List.findSome?_cons, List.findSome?_cons, ho, ih hos]

@[simp] theorem find_empty : empty.find p next = next p := by
  rw [find, ends, List.findSome?_singleton]

@[simp] theorem find_set_nil (s : CharSet) (i : Nat) (b : Option Char) :
    (set s).find ⟨i, b, []⟩ next = none := rfl

@[simp] theorem find_set_cons (s : CharSet) (i : Nat) (b : Option Char) (c : Char)
    (rest : List Char) : (set s).find ⟨i, b, c :: rest⟩ next =
      if s.contains c = true then next ⟨i + 1, some c, rest⟩ else none := by
  rw [find, ends, Place.next?]
  dsimp only
  split
  · rw [List.findSome?_singleton]
  · rfl

@[simp] theorem find_look (a : Assertion) :
    (look a).find p next = if a.holds p = true then next p else none := by
  rw [find, ends]
  split
  · rw [List.findSome?_singleton]
  · rfl

@[simp] theorem find_group (index : Nat) : (group index a).find p next = a.find p next := by
  rw [find, ends, List.findSome?_map]
  rfl

@[simp] theorem find_seq :
    (seq a b).find p next = a.find p fun q => b.find q next := by
  have htook : ∀ o ∈ (a.ends ⟨p, []⟩).flatMap b.ends,
      ∃ taken, (⟨p, []⟩ : Progress).Took taken o := by
    intro o ho
    obtain ⟨q, hq, ho⟩ := List.mem_flatMap.mp ho
    obtain ⟨u, hu⟩ := exists_took_of_mem_ends hq
    obtain ⟨v, hv⟩ := exists_took_of_mem_ends ho
    exact ⟨u ++ v, hu.trans hv⟩
  rw [find, ends, findSome?_goOn (next_eq_of_took htook)]
  simp only [findSome?_ends]
  rfl

@[simp] theorem find_alt :
    (alt a b).find p next = (a.find p next).or (b.find p next) := by
  have htook : ∀ o ∈ a.ends ⟨p, []⟩ ++ b.ends ⟨p, []⟩,
      ∃ taken, (⟨p, []⟩ : Progress).Took taken o :=
    List.forall_mem_append.mpr
      ⟨fun _ ho => exists_took_of_mem_ends ho, fun _ ho => exists_took_of_mem_ends ho⟩
  exact findSome?_orElse (next_eq_of_took htook)

@[simp] theorem find_optional : (optional a).find p next = (a.find p next).or (next p) := by
  have htook : ∀ o ∈ a.ends ⟨p, []⟩ ++ [⟨p, []⟩],
      ∃ taken, (⟨p, []⟩ : Progress).Took taken o :=
    List.forall_mem_append.mpr
      ⟨fun _ ho => exists_took_of_mem_ends ho, List.forall_mem_singleton.mpr ⟨[], .refl _⟩⟩
  rw [find, ends_optional, findSome?_distinct (next_eq_of_took htook), List.findSome?_append,
    List.findSome?_singleton]
  rfl

end

/-! ## 2. Repetitions -/

/-- Every outcome of the pattern has taken something. -/
def Consumes (a : Pattern) : Prop := ∀ p q, q ∈ a.ends p → p.index < q.index

/-- What the pattern repeated finds by plain backtracking: it goes on after every outcome and stops
where that leads nowhere, or the other way round if it is not greedy. -/
def backtrack {α : Type} (a : Pattern) (greedy : Bool) (next : Place → Option α) :
    (fuel : Nat) → Place → Option α
  | 0, _ => none
  | fuel + 1, p =>
    if greedy then (a.find p (a.backtrack greedy next fuel)).or (next p)
    else (next p).or (a.find p (a.backtrack greedy next fuel))

section

variable {α : Type} {a : Pattern} {greedy : Bool} {next : Place → Option α}

/-- An outcome that has taken something leaves less of the text ahead. -/
theorem Consumes.rest_lt (ha : a.Consumes) {p q : Progress} (hq : q ∈ a.ends p) :
    q.place.rest.length < p.place.rest.length := by
  obtain ⟨taken, htook⟩ := exists_took_of_mem_ends hq
  have hlt := ha p q hq
  have hindex := htook.index
  rw [htook.rest, List.length_append]
  omega

/-- More fuel than there is text ahead changes nothing. -/
theorem backtrack_eq (ha : a.Consumes) {fuel fuel' : Nat} {p : Place}
    (h : p.rest.length < fuel) (h' : p.rest.length < fuel') :
    a.backtrack greedy next fuel p = a.backtrack greedy next fuel' p := by
  induction fuel generalizing fuel' p with
  | zero => omega
  | succ fuel ih =>
    cases fuel' with
    | zero => omega
    | succ fuel' =>
      have hbody : a.find p (a.backtrack greedy next fuel) =
          a.find p (a.backtrack greedy next fuel') := by
        refine find_congr fun q hq => ?_
        have hlt : q.place.rest.length < p.rest.length := ha.rest_lt hq
        exact ih (by omega) (by omega)
      rw [backtrack, backtrack, hbody]

/-- What backtracking finds at a place, with fuel enough. -/
def onward (a : Pattern) (greedy : Bool) (next : Place → Option α) (p : Place) : Option α :=
  a.backtrack greedy next (p.rest.length + 1) p

theorem onward_eq (ha : a.Consumes) (p : Place) :
    a.onward greedy next p =
      if greedy then (a.find p (a.onward greedy next)).or (next p)
      else (next p).or (a.find p (a.onward greedy next)) := by
  have hbody : a.find p (a.backtrack greedy next p.rest.length) =
      a.find p (a.onward greedy next) := by
    refine find_congr fun q hq => ?_
    have hlt := ha.rest_lt hq
    exact backtrack_eq ha hlt (Nat.lt_succ_self _)
  rw [onward, backtrack, hbody]

end

end Pattern

section

variable {α : Type} {next : Place → Option α}

/-- What `next` makes of the most preferred outcome of which it makes anything. -/
def Found.first (f : Found) (next : Place → Option α) : Option α :=
  f.outcomes.reverse.findSome? fun o => next o.place

theorem Found.first_cons (next : Place → Option α) (seen seen' : IndexSet) (o : Progress)
    (os : List Progress) :
    (⟨seen, o :: os⟩ : Found).first next =
      ((⟨seen', os⟩ : Found).first next).or (next o.place) := by
  rw [first, first, List.reverse_cons, List.findSome?_append, List.findSome?_singleton]

/-- Before the ways on from a place are tried, a lazy repetition takes it as an outcome. -/
theorem Found.first_opened (greedy : Bool) (next : Place → Option α) (f : Found) (o : Progress) :
    (⟨f.seen.insert o.index, if greedy = true then f.outcomes else o :: f.outcomes⟩ :
        Found).first next =
      if greedy = true then f.first next else (f.first next).or (next o.place) := by
  cases greedy with
  | true => rfl
  | false => exact first_cons next _ _ _ _

/-- After the ways on from a place have been tried, a greedy repetition takes it as an outcome. -/
theorem Found.first_closed (greedy : Bool) (next : Place → Option α) (g : Found) (o : Progress) :
    (if greedy = true then ⟨g.seen, o :: g.outcomes⟩ else g : Found).first next =
      if greedy = true then (g.first next).or (next o.place) else g.first next := by
  cases greedy with
  | true => exact first_cons next _ _ _ _
  | false => rfl

/-- **What the places seen are good for.**  If no outcome found so far leads on, then nothing does
from a place that has been dealt with.  Places that are still being dealt with are left out. -/
def Found.Settled (f : Found) (a : Pattern) (greedy : Bool) (next : Place → Option α)
    (origin : Progress) (pending : Nat → Prop) : Prop :=
  f.first next = .none → ∀ taken q, origin.Took taken q → f.seen.contains q.index = true →
    ¬ pending q.index → a.onward greedy next q.place = .none

variable {a : Pattern} {greedy : Bool} {origin : Progress} {pending : Nat → Prop}

/-- What holds of going on from one outcome holds of going on from several, one after the other. -/
theorem first_foldl (step : Found → Progress → Found) (os : List Progress) {f : Found}
    (hf : f.Settled a greedy next origin pending)
    (hstep : ∀ q ∈ os, ∀ f : Found, f.Settled a greedy next origin pending →
      (step f q).first next = (f.first next).or (a.onward greedy next q.place) ∧
        (step f q).Settled a greedy next origin pending) :
    (os.foldl step f).first next =
        (f.first next).or (os.findSome? fun q => a.onward greedy next q.place) ∧
      (os.foldl step f).Settled a greedy next origin pending := by
  induction os generalizing f with
  | nil => exact ⟨(Option.or_none).symm, hf⟩
  | cons q os ih =>
    obtain ⟨hq, hos⟩ := List.forall_mem_cons.mp hstep
    obtain ⟨hfirst, hsettled⟩ := hq f hf
    obtain ⟨hrest, hsettled'⟩ := ih hsettled hos
    refine ⟨?_, hsettled'⟩
    rw [List.foldl_cons, hrest, hfirst, Option.or_assoc, List.findSome?_cons]
    cases a.onward greedy next q.place <;> rfl

/-- To begin with, no place has been seen. -/
theorem Found.settled_none : Found.none.Settled a greedy next origin pending := by
  intro _ _ q _ hmem
  rw [none, IndexSet.contains_empty] at hmem
  cases hmem

/-- Going on from a place, it is pending. -/
theorem Found.Settled.begin {f opened : Found} {o : Progress}
    (hf : f.Settled a greedy next origin pending)
    (hnone : opened.first next = .none → f.first next = .none)
    (hseen : opened.seen = f.seen.insert o.index) :
    opened.Settled a greedy next origin fun i => pending i ∨ i = o.index := by
  intro hopened taken q hq hmem hnot
  rw [not_or] at hnot
  rw [hseen, IndexSet.contains_insert, Bool.or_eq_true, decide_eq_true_eq] at hmem
  exact hf (hnone hopened) taken q hq (hmem.resolve_right fun h => hnot.2 h.symm) hnot.1

/-- When all ways on from a place have been tried, it has been dealt with. -/
theorem Found.Settled.finish {g closed : Found} {o : Progress} {taken : List Char}
    (ho : origin.Took taken o)
    (hg : g.Settled a greedy next origin fun i => pending i ∨ i = o.index)
    (hnone : closed.first next = .none →
      g.first next = .none ∧ a.onward greedy next o.place = .none)
    (hseen : closed.seen = g.seen) : closed.Settled a greedy next origin pending := by
  intro hclosed taken' q hq hmem hnot
  obtain ⟨hgnone, honward⟩ := hnone hclosed
  by_cases hindex : q.index = o.index
  · rwa [hq.place_eq ho hindex]
  · refine hg hgnone taken' q hq (hseen ▸ hmem) ?_
    rintro (h | h)
    · exact hnot h
    · exact hindex h

/-- **Leaving out the places seen, going on finds what backtracking finds.**  By induction on the
fuel; a place is pending while the ways on from it are tried. -/
theorem first_iterateFrom (ha : a.Consumes) {fuel : List Char} {f : Found} {o : Progress}
    {taken : List Char} (ho : origin.Took taken o) (hfuel : o.place.rest.length < fuel.length)
    (hpending : ∀ i, pending i → i < o.index) (hf : f.Settled a greedy next origin pending) :
    (iterateFrom a.ends greedy fuel f o).first next =
        (f.first next).or (a.onward greedy next o.place) ∧
      (iterateFrom a.ends greedy fuel f o).Settled a greedy next origin pending := by
  induction fuel generalizing f o taken pending with
  | nil => cases hfuel
  | cons c fuel ih =>
    rw [iterateFrom]
    split
    · -- Seen before, and not pending, as it lies behind all that is: nothing is lost with it.
      rename_i hseen
      refine ⟨?_, hf⟩
      cases hfirst : f.first next with
      | some x => rfl
      | none =>
        have hnot : ¬ pending o.index := fun h => Nat.lt_irrefl _ (hpending _ h)
        rw [hf hfirst taken o ho hseen hnot]
        rfl
    · dsimp only
      have hopened := Found.first_opened greedy next f o
      have hsettled : (⟨f.seen.insert o.index,
            if greedy = true then f.outcomes else o :: f.outcomes⟩ : Found).Settled a greedy next
          origin fun i => pending i ∨ i = o.index := by
        refine hf.begin (fun hnone => ?_) rfl
        rw [hopened] at hnone
        cases greedy with
        | true => exact hnone
        | false => exact (Option.or_eq_none_iff.mp hnone).1
      -- Every way on takes something, so none comes back to the place while it is pending.
      obtain ⟨hfirst, hsettled'⟩ := first_foldl
        (fun f q => if (q.index == o.index) = true then f else iterateFrom a.ends greedy fuel f q)
        (a.ends o) hsettled (by
        intro q hq f hf
        obtain ⟨more, hmore⟩ := Pattern.exists_took_of_mem_ends hq
        have hlt := ha o q hq
        have hrest := ha.rest_lt hq
        rw [List.length_cons] at hfuel
        rw [if_neg (by simpa using Nat.ne_of_gt hlt)]
        refine ih (ho.trans hmore) (by omega) (fun i hi => ?_) hf
        rcases hi with hi | rfl
        · exact Nat.lt_trans (hpending i hi) hlt
        · exact hlt)
      rw [Pattern.findSome?_ends, hopened] at hfirst
      revert hfirst hsettled'
      generalize (a.ends o).foldl _ _ = g
      intro hfirst hsettled'
      have hclosed : (if greedy = true then ⟨g.seen, o :: g.outcomes⟩ else g : Found).first next =
          (f.first next).or (a.onward greedy next o.place) := by
        rw [Found.first_closed, hfirst, Pattern.onward_eq ha o.place]
        cases greedy with
        | true => exact Option.or_assoc
        | false => exact Option.or_assoc
      refine ⟨hclosed, hsettled'.finish ho (fun hnone => ⟨?_, ?_⟩) ?_⟩
      · rw [Found.first_closed] at hnone
        cases greedy with
        | true => exact (Option.or_eq_none_iff.mp hnone).1
        | false => exact hnone
      · exact (Option.or_eq_none_iff.mp (hclosed.symm.trans hnone)).2
      · cases greedy <;> rfl

/-- One or more iterations, begun where some outcomes have been found. -/
theorem first_oneOrMore (ha : a.Consumes) {f : Found} {p : Progress}
    (hpending : ∀ i, pending i → i ≤ p.index) (hf : f.Settled a greedy next p pending) :
    (oneOrMore a.ends greedy f p).first next =
        (f.first next).or (a.find p.place (a.onward greedy next)) ∧
      (oneOrMore a.ends greedy f p).Settled a greedy next p pending := by
  rw [← Pattern.findSome?_ends]
  refine first_foldl _ _ hf fun q hq f hf => ?_
  obtain ⟨taken, htook⟩ := Pattern.exists_took_of_mem_ends hq
  have hlt := ha p q hq
  rw [if_neg (by simpa using Nat.ne_of_gt hlt)]
  exact first_iterateFrom ha htook (ha.rest_lt hq)
    (fun i hi => Nat.lt_of_le_of_lt (hpending i hi) hlt) hf

theorem first_zeroOrMore (ha : a.Consumes) (p : Progress) :
    (zeroOrMore a.ends greedy p).first next = a.onward greedy next p.place := by
  rw [Pattern.onward_eq ha]
  cases greedy with
  | true =>
    have hnone : Found.none.Settled a true next p fun _ => False := Found.settled_none
    obtain ⟨hfirst, hsettled⟩ := first_oneOrMore ha (fun _ h => h.elim) hnone
    rw [zeroOrMore, if_pos rfl, if_pos rfl, Found.add]
    split
    · -- The place has been seen, so that nothing is lost with it.
      rename_i hseen
      cases hfind : a.find p.place (a.onward true next) with
      | some x => rw [hfirst, hfind]; rfl
      | none =>
        have honward := hsettled (hfirst.trans hfind) [] p (.refl p) hseen not_false
        rw [Pattern.onward_eq ha, if_pos rfl, hfind] at honward
        rw [hfirst, hfind, honward]
        rfl
    · rw [Found.first_cons next _ (oneOrMore a.ends true .none p).seen, hfirst]
      rfl
  | false =>
    have hadd : Found.none.add p = ⟨Found.none.seen.insert p.index, [p]⟩ := by
      rw [Found.add, if_neg (by simp [Found.none])]
      rfl
    have hsettled : (Found.none.add p).Settled a false next p (· = p.index) := by
      intro _ _ q _ hmem hnot
      rw [hadd, IndexSet.contains_insert, Found.none, IndexSet.contains_empty, Bool.false_or,
        decide_eq_true_eq] at hmem
      exact absurd hmem.symm hnot
    obtain ⟨hfirst, -⟩ := first_oneOrMore ha (fun _ h => Nat.le_of_eq h) hsettled
    have hp : (Found.none.add p).first next = next p.place := by
      rw [hadd]
      exact Found.first_cons next _ Found.none.seen p []
    rw [zeroOrMore, if_neg Bool.false_ne_true, if_neg Bool.false_ne_true, hfirst, hp]

end

namespace Pattern

variable {α : Type} {a : Pattern} {p : Place} {next : Place → Option α}

theorem find_repeated (ha : a.Consumes) (greedy : Bool) :
    (repeated a 0 none greedy).find p next = a.onward greedy next p :=
  first_zeroOrMore ha ⟨p, []⟩

/-- **As many iterations as possible**: another one if that leads on, and else none. -/
theorem find_greedy (ha : a.Consumes) :
    (repeated a 0 none true).find p next =
      (a.find p fun q => (repeated a 0 none true).find q next).or (next p) := by
  simp only [find_repeated ha]
  exact onward_eq ha p

/-- **As few iterations as possible**: none if that leads on, and else another one. -/
theorem find_lazy (ha : a.Consumes) :
    (repeated a 0 none false).find p next =
      (next p).or (a.find p fun q => (repeated a 0 none false).find q next) := by
  simp only [find_repeated ha]
  exact onward_eq ha p

/-- One iteration at least. -/
theorem find_repeated_one (ha : a.Consumes) (greedy : Bool) :
    (repeated a 1 none greedy).find p next =
      a.find p fun q => (repeated a 0 none greedy).find q next := by
  simp only [find_repeated ha]
  have hnone : Found.none.Settled a greedy next ⟨p, []⟩ fun _ => False := Found.settled_none
  exact (first_oneOrMore ha (fun _ h => h.elim) hnone).1

end Pattern

end Highlighter
