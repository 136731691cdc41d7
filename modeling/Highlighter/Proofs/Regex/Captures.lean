/-
# Groups closed before

A pattern may begin after groups have been closed, as in a sequence or a repetition.  **The groups
closed before change nothing of what it finds** (`Pattern.ends_behind`): the same outcomes in the
same order, each with those groups behind its own.
-/
import Highlighter.Regex.Match

namespace Highlighter

/-! ## 1. Lists of outcomes -/

namespace Progress

/-- The same progress, with groups that were closed before it. -/
def behind (earlier : List Capture) (p : Progress) : Progress :=
  { p with captures := p.captures ++ earlier }

variable (earlier : List Capture) (p : Progress)

@[simp] theorem place_behind : (p.behind earlier).place = p.place := rfl

@[simp] theorem index_behind : (p.behind earlier).index = p.index := rfl

end Progress

section

variable {earlier : List Capture}

theorem distinctFrom_behind (seen : IndexSet) (os : List Progress) :
    distinctFrom seen (os.map (·.behind earlier)) =
      (distinctFrom seen os).map (·.behind earlier) := by
  induction os generalizing seen with
  | nil => rfl
  | cons o os ih =>
    by_cases hseen : seen.contains o.index = true
    · simp only [List.map_cons, distinctFrom, Progress.index_behind, hseen, if_true, ih]
    · simp only [List.map_cons, distinctFrom, Progress.index_behind, hseen, Bool.false_eq_true,
        if_false, ih]

theorem distinct_behind (os : List Progress) :
    distinct (os.map (·.behind earlier)) = (distinct os).map (·.behind earlier) :=
  distinctFrom_behind .empty os

theorem orElse_behind (os others : List Progress) :
    orElse (os.map (·.behind earlier)) (others.map (·.behind earlier)) =
      (orElse os others).map (·.behind earlier) := by
  cases os with
  | nil => rfl
  | cons o os =>
    cases others with
    | nil => rfl
    | cons other others =>
      show distinct (_ ++ _) = (distinct (_ ++ _)).map _
      rw [← List.map_append, distinct_behind]

theorem goOn_behind {next : Progress → List Progress}
    (hnext : ∀ p, next (p.behind earlier) = (next p).map (·.behind earlier))
    (os : List Progress) :
    goOn (os.map (·.behind earlier)) next = (goOn os next).map (·.behind earlier) := by
  have hflat : (os.map (·.behind earlier)).flatMap next =
      (os.flatMap next).map (·.behind earlier) := by
    rw [List.flatMap_map, List.map_flatMap]
    exact congrArg (os.flatMap ·) (funext hnext)
  match os with
  | [] => rfl
  | [o] => exact hnext o
  | o :: o' :: os =>
    show distinct _ = (distinct _).map _
    rw [← distinct_behind, ← hflat]
    rfl

/-! ## 2. Repetitions -/

section Repetition

variable {body : Progress → List Progress} (greedy : Bool)
  (hbody : ∀ p, body (p.behind earlier) = (body p).map (·.behind earlier))

/-- What was found, with groups that were closed before it. -/
def Found.behind (earlier : List Capture) (f : Found) : Found :=
  ⟨f.seen, f.outcomes.map (·.behind earlier)⟩

theorem Found.add_behind (f : Found) (o : Progress) :
    (f.behind earlier).add (o.behind earlier) = (f.add o).behind earlier := by
  by_cases hseen : f.seen.contains o.index = true
  · simp only [add, behind, Progress.index_behind, hseen, if_true]
  · simp only [add, behind, Progress.index_behind, hseen, Bool.false_eq_true, if_false,
      List.map_cons]

include hbody

theorem iterateFrom_behind (fuel : List Char) (f : Found) (o : Progress) :
    iterateFrom body greedy fuel (f.behind earlier) (o.behind earlier) =
      (iterateFrom body greedy fuel f o).behind earlier := by
  induction fuel generalizing f o with
  | nil => rfl
  | cons c fuel ih =>
    have hfold : ∀ opened : Found, (body (o.behind earlier)).foldl (fun g q =>
          if q.index == o.index then g else iterateFrom body greedy fuel g q)
          (opened.behind earlier) =
        ((body o).foldl (fun g q =>
          if q.index == o.index then g else iterateFrom body greedy fuel g q)
          opened).behind earlier := by
      intro opened
      rw [hbody, List.foldl_map]
      refine List.foldl_hom (Found.behind earlier) fun g q => ?_
      rw [Progress.index_behind]
      split
      · rfl
      · exact ih g q
    rw [iterateFrom, iterateFrom, Progress.index_behind]
    by_cases hseen : f.seen.contains o.index = true
    · simp only [Found.behind, hseen, if_true]
    · cases greedy with
      | true =>
        have h := hfold ⟨f.seen.insert o.index, f.outcomes⟩
        simp only [Found.behind] at h ⊢
        simp only [hseen, if_false, if_true, h, List.map_cons, Bool.false_eq_true]
      | false =>
        have h := hfold ⟨f.seen.insert o.index, o :: f.outcomes⟩
        simp only [Found.behind, List.map_cons] at h ⊢
        simp only [hseen, if_false, h, Bool.false_eq_true]

theorem oneOrMore_behind (f : Found) (p : Progress) :
    oneOrMore body greedy (f.behind earlier) (p.behind earlier) =
      (oneOrMore body greedy f p).behind earlier := by
  rw [oneOrMore, oneOrMore, hbody, List.foldl_map]
  refine List.foldl_hom (Found.behind earlier) fun g q => ?_
  by_cases hindex : (q.index == p.index) = true
  · simp only [Progress.index_behind, hindex, if_true]
    exact Found.add_behind g q
  · simp only [Progress.index_behind, hindex, Bool.false_eq_true, if_false]
    exact iterateFrom_behind greedy hbody _ g q

theorem zeroOrMore_behind (p : Progress) :
    zeroOrMore body greedy (p.behind earlier) =
      (zeroOrMore body greedy p).behind earlier := by
  cases greedy with
  | true =>
    have hone : oneOrMore body true .none (p.behind earlier) =
        (oneOrMore body true .none p).behind earlier := oneOrMore_behind true hbody .none p
    rw [zeroOrMore, zeroOrMore, if_pos rfl, if_pos rfl, hone]
    exact Found.add_behind _ p
  | false =>
    have hadd : Found.none.add (p.behind earlier) = (Found.none.add p).behind earlier :=
      Found.add_behind .none p
    rw [zeroOrMore, zeroOrMore, hadd]
    exact oneOrMore_behind false hbody _ p

/-- What a bounded repetition has found, with groups that were closed before it. -/
def FoundUpTo.behind (earlier : List Capture) (f : FoundUpTo) : FoundUpTo :=
  ⟨f.seen, f.outcomes.map (·.behind earlier)⟩

theorem upTo_behind (left : Nat) (f : FoundUpTo) (o : Progress) :
    upTo body greedy left (f.behind earlier) (o.behind earlier) =
      (upTo body greedy left f o).behind earlier := by
  induction left generalizing f o with
  | zero => rfl
  | succ left ih =>
    have hfold : ∀ opened : FoundUpTo,
        (body (o.behind earlier)).foldl (upTo body greedy left) (opened.behind earlier) =
          ((body o).foldl (upTo body greedy left) opened).behind earlier := by
      intro opened
      rw [hbody, List.foldl_map]
      exact List.foldl_hom (FoundUpTo.behind earlier) ih
    rw [upTo, upTo, Progress.index_behind]
    by_cases hseen : (f.seen.headD .empty).contains o.index = true
    · simp only [FoundUpTo.behind, hseen, if_true]
    · cases greedy with
      | true =>
        have h := hfold ⟨f.seen.tail, f.outcomes⟩
        simp only [FoundUpTo.behind] at h ⊢
        simp only [hseen, if_false, if_true, h, List.map_cons, Bool.false_eq_true]
      | false =>
        have h := hfold ⟨f.seen.tail, o :: f.outcomes⟩
        simp only [FoundUpTo.behind, List.map_cons] at h ⊢
        simp only [hseen, if_false, h, Bool.false_eq_true]

theorem exactly_behind (n : Nat) (os : List Progress) :
    exactly body n (os.map (·.behind earlier)) = (exactly body n os).map (·.behind earlier) := by
  induction n generalizing os with
  | zero => rfl
  | succ n ih =>
    cases os with
    | nil => rfl
    | cons o os =>
      have hgo := goOn_behind hbody (o :: os)
      rw [List.map_cons] at hgo
      rw [List.map_cons, exactly, exactly, hgo, ih]

theorem iterations_behind (min : Nat) (max : Option Nat) (p : Progress) :
    iterations body greedy min max (p.behind earlier) =
      (iterations body greedy min max p).map (·.behind earlier) := by
  have hexactly : ∀ n, exactly body n [p.behind earlier] =
      (exactly body n [p]).map (·.behind earlier) := fun n => exactly_behind hbody n [p]
  unfold iterations
  cases max with
  | some max =>
    dsimp only
    rw [hexactly]
    refine goOn_behind (fun q => ?_) _
    have h := upTo_behind greedy hbody (max - min) ⟨[], []⟩ q
    rw [show (⟨[], []⟩ : FoundUpTo).behind earlier = ⟨[], []⟩ from rfl] at h
    rw [h, FoundUpTo.behind, ← List.map_reverse, distinct_behind]
  | none =>
    cases min with
    | zero =>
      dsimp only
      rw [zeroOrMore_behind greedy hbody, Found.behind, ← List.map_reverse]
    | succ min =>
      dsimp only
      rw [hexactly]
      refine goOn_behind (fun q => ?_) _
      have h := oneOrMore_behind greedy hbody .none q
      rw [show Found.none.behind earlier = .none from rfl] at h
      rw [h, Found.behind, ← List.map_reverse]

end Repetition

/-! ## 3. Patterns -/

/-- **The groups closed before a pattern begins change nothing of what it finds.** -/
theorem Pattern.ends_behind (a : Pattern) (p : Progress) :
    a.ends (p.behind earlier) = (a.ends p).map (·.behind earlier) := by
  induction a generalizing p with
  | empty => rfl
  | set s =>
    rw [ends, ends, Progress.place_behind]
    split
    · split <;> rfl
    · rfl
  | look a =>
    rw [ends, ends, Progress.place_behind]
    split <;> rfl
  | seq a b iha ihb =>
    rw [ends, ends, iha]
    exact goOn_behind ihb _
  | alt a b iha ihb =>
    rw [ends, ends, iha, ihb]
    exact orElse_behind _ _
  | repeated a min max greedy ih => exact iterations_behind greedy ih min max p
  | group i a ih =>
    rw [ends, ends, ih, List.map_map, List.map_map]
    rfl

end

end Highlighter
