/-
# The preferred outcome

Of the outcomes of a pattern the first one is the match.  Of a sequence it is the first outcome of
the second part from the first outcome of the first part that has any (`head?_ends_seq`), and a
repetition that takes as many characters of a set as there are comes to a place with none of them
ahead (`exhausts_many`).

`Pattern.Exhausts` says this of any pattern: **its match leaves no character of the set ahead**
(`Exhausts.match?`).  What ends in such a repetition, or after it in an optional part that does,
exhausts the set.
-/
import Highlighter.Proofs.Regex.Takes

namespace Highlighter

/-! ## 1. First outcomes -/

theorem head?_distinct (os : List Progress) : (distinct os).head? = os.head? := by
  cases os with
  | nil => rfl
  | cons o os =>
    rw [distinct, distinctFrom, IndexSet.contains_empty, if_neg Bool.false_ne_true]
    rfl

theorem head?_goOn (os : List Progress) (next : Progress → List Progress) :
    (goOn os next).head? = os.findSome? fun o => (next o).head? := by
  unfold goOn
  split
  · rfl
  · simp
  · rw [head?_distinct, List.head?_flatMap]

namespace Pattern

theorem head?_ends_seq (a b : Pattern) (p : Progress) :
    ((seq a b).ends p).head? = (a.ends p).findSome? fun q => (b.ends q).head? :=
  head?_goOn _ _

theorem head?_ends_group (index : Nat) (a : Pattern) (p : Progress) :
    ((group index a).ends p).head? =
      (a.ends p).head?.map fun q => q.close index p.index :=
  List.head?_map

/-- An optional part is tried first and left out where it does not fit. -/
theorem ends_optional (a : Pattern) (p : Progress) :
    (optional a).ends p = distinct (a.ends p ++ [p]) := by
  have hfold : ∀ (os : List Progress) (f : FoundUpTo),
      (os.foldl (upTo a.ends true 0) f).outcomes = os.reverse ++ f.outcomes := by
    intro os
    induction os with
    | nil => exact fun f => rfl
    | cons o os ih =>
      intro f
      rw [List.foldl_cons, ih, upTo, List.reverse_cons, List.append_assoc]
      rfl
  have hends : (optional a).ends p =
      distinct (upTo a.ends true 1 ⟨[], []⟩ p).outcomes.reverse := rfl
  rw [hends, upTo]
  simp only [List.headD_nil, IndexSet.contains_empty, Bool.false_eq_true, if_false, if_true, hfold,
    List.append_nil, List.reverse_cons, List.reverse_reverse]

theorem head?_ends_optional (a : Pattern) (p : Progress) :
    ((optional a).ends p).head? = some (((a.ends p).head?).getD p) := by
  rw [ends_optional, head?_distinct, List.head?_append, List.head?_cons]
  cases (a.ends p).head? <;> rfl

/-! ## 2. Leaving none of a set ahead -/

/-- No character of the set is just ahead. -/
def Without (s : CharSet) (p : Progress) : Prop := ∀ c ∈ p.place.ahead, s.contains c = false

/-- Wherever the pattern begins, its match leaves no character of the set just ahead. -/
def Exhausts (a : Pattern) (s : CharSet) : Prop :=
  ∀ p q, (a.ends p).head? = some q → Without s q

namespace Exhausts

variable {a b : Pattern} {s : CharSet}

/-- **What the match leaves ahead is not in the set.** -/
theorem match? (h : a.Exhausts s) {before : Option Char} {rest : List Char} {m : Match}
    (hm : a.match? before rest = some m) :
    ∀ c ∈ (rest.drop m.length).head?, s.contains c = false := by
  obtain ⟨q, hq, rfl⟩ := Option.map_eq_some_iff.mp hm
  obtain ⟨taken, htook, -⟩ :=
    exists_takes_of_leads (leads_of_mem_ends (List.mem_of_head? hq))
  obtain ⟨-, hdrop⟩ := htook.take_eq
  dsimp only
  rw [hdrop]
  exact h _ _ hq

theorem mono {large : CharSet} (h : a.Exhausts large)
    (hs : ∀ c, s.contains c = true → large.contains c = true) : a.Exhausts s :=
  fun p q hq c hc => Bool.eq_false_iff.mpr fun hsc =>
    Bool.eq_false_iff.mp (h p q hq c hc) (hs c hsc)

theorem group (h : a.Exhausts s) (index : Nat) : (Pattern.group index a).Exhausts s := by
  intro p q hq
  rw [head?_ends_group, Option.map_eq_some_iff] at hq
  obtain ⟨r, hr, rfl⟩ := hq
  exact h p r hr

/-- The end of a sequence is the end of its last part. -/
theorem seq (h : b.Exhausts s) (a : Pattern) : (Pattern.seq a b).Exhausts s := by
  intro p q hq
  rw [head?_ends_seq] at hq
  obtain ⟨r, -, hr⟩ := List.exists_of_findSome?_eq_some hq
  exact h r q hr

/-- An optional part never fails, so it begins at the end of the match before it. -/
theorem optional (ha : a.Exhausts s) (hb : b.Exhausts s) :
    (Pattern.seq a (Pattern.optional b)).Exhausts s := by
  intro p q hq
  simp only [head?_ends_seq, head?_ends_optional] at hq
  cases hr : a.ends p with
  | nil =>
    rw [hr] at hq
    cases hq
  | cons r others =>
    rw [hr, List.findSome?_cons] at hq
    obtain rfl := Option.some.inj hq
    cases hb' : (b.ends r).head? with
    | none => exact ha p r (by rw [hr]; rfl)
    | some q => exact hb r q hb'

end Exhausts

/-! ## 3. Repeated characters -/

/-- A set takes the character ahead, if it is in it. -/
theorem ends_set (s : CharSet) (p : Progress) :
    (Without s p ∧ (set s).ends p = []) ∨
      ∃ q, (set s).ends p = [q] ∧ q.index = p.index + 1 ∧
        q.place.rest.length + 1 = p.place.rest.length := by
  cases hrest : p.place.rest with
  | nil =>
    refine Or.inl ⟨fun c hc => ?_, ?_⟩
    · rw [Place.ahead, hrest] at hc
      cases hc
    · simp [ends, Place.next?, hrest]
  | cons c rest =>
    by_cases hc : s.contains c = true
    · exact Or.inr ⟨{ p with place := ⟨p.place.index + 1, some c, rest⟩ },
        by simp [ends, Place.next?, hrest, hc], rfl, rfl⟩
    · refine Or.inl ⟨fun d hd => ?_, by simp [ends, Place.next?, hrest, hc]⟩
      rw [Place.ahead, hrest] at hd
      obtain rfl := Option.some.inj hd
      exact Bool.eq_false_iff.mpr hc

/-- **Going on as long as characters of the set come finds, as the most preferred outcome, one with
no such character ahead.**  The places that lie ahead have not been seen, so none is left out. -/
theorem iterateFrom_set (s : CharSet) {fuel : List Char} {f : Found} {o : Progress}
    (hfuel : o.place.rest.length < fuel.length)
    (hseen : ∀ i, o.index ≤ i → f.seen.contains i = false) :
    ∃ others last, (iterateFrom (set s).ends true fuel f o).outcomes =
      others ++ last :: f.outcomes ∧ Without s last := by
  induction fuel generalizing f o with
  | nil => cases hfuel
  | cons c fuel ih =>
    rw [iterateFrom, hseen _ (Nat.le_refl _), if_neg Bool.false_ne_true]
    rcases ends_set s o with ⟨hwithout, hends⟩ | ⟨q, hends, hindex, hrest⟩
    · exact ⟨[], o, by simp [hends], hwithout⟩
    · have hne : q.index ≠ o.index := by omega
      obtain ⟨others, last, houtcomes, hlast⟩ := ih (f := ⟨f.seen.insert o.index, f.outcomes⟩)
        (o := q) (by rw [List.length_cons] at hfuel; omega) (fun i hi => by
          have hoi : o.index ≠ i := by omega
          simp [hseen i (by omega), hoi])
      refine ⟨o :: others, last, ?_, hlast⟩
      simp [hends, hne, houtcomes]

/-- One or more characters of the set, as many as there are. -/
theorem oneOrMore_set (s : CharSet) (p : Progress) :
    (Without s p ∧ oneOrMore (set s).ends true .none p = .none) ∨
      ∃ others last, (oneOrMore (set s).ends true .none p).outcomes = others ++ [last] ∧
        Without s last := by
  unfold oneOrMore
  rcases ends_set s p with ⟨hwithout, hends⟩ | ⟨q, hends, hindex, hrest⟩
  · exact Or.inl ⟨hwithout, by rw [hends, List.foldl_nil]⟩
  · have hne : q.index ≠ p.index := by omega
    have hfuel : q.place.rest.length < p.place.rest.length := by omega
    obtain ⟨others, last, houtcomes, hlast⟩ := iterateFrom_set s (f := .none) hfuel
      (fun i _ => IndexSet.contains_empty i)
    exact Or.inr ⟨others, last, by simpa [hends, hne, Found.none] using houtcomes, hlast⟩

/-- **As many characters of a set as there are leave none of them ahead.** -/
theorem exhausts_many1 (s : CharSet) : (many1 s).Exhausts s := by
  intro p q hq
  have hends : (many1 s).ends p = (oneOrMore (set s).ends true .none p).outcomes.reverse := rfl
  rw [hends] at hq
  rcases oneOrMore_set s p with ⟨-, hnone⟩ | ⟨others, last, houtcomes, hlast⟩
  · rw [hnone] at hq
    cases hq
  · rw [houtcomes, List.reverse_append] at hq
    exact Option.some.inj hq ▸ hlast

/-- Any number of characters of a set: there is always an outcome, and the most preferred one leaves
none of them ahead. -/
theorem exists_ends_many (s : CharSet) (p : Progress) :
    ∃ last others, (many s).ends p = last :: others ∧ Without s last := by
  have hends : (many s).ends p =
      ((oneOrMore (set s).ends true .none p).add p).outcomes.reverse := rfl
  rw [hends]
  rcases oneOrMore_set s p with ⟨hwithout, hnone⟩ | ⟨others, last, houtcomes, hlast⟩
  · refine ⟨p, [], ?_, hwithout⟩
    rw [hnone]
    simp [Found.add, Found.none, IndexSet.contains_empty]
  · -- The place before the repetition is the least preferred outcome, be it added or not.
    have hadd : ∃ first, ((oneOrMore (set s).ends true .none p).add p).outcomes =
        first ++ others ++ [last] := by
      unfold Found.add
      split
      · exact ⟨[], houtcomes⟩
      · exact ⟨[p], by simp [houtcomes]⟩
    obtain ⟨first, hadd⟩ := hadd
    rw [hadd, List.reverse_append]
    exact ⟨last, _, rfl, hlast⟩

theorem exhausts_many (s : CharSet) : (many s).Exhausts s := by
  intro p q hq
  obtain ⟨last, others, hends, hlast⟩ := exists_ends_many s p
  rw [hends] at hq
  exact Option.some.inj hq ▸ hlast

end Pattern

end Highlighter
