/-
# Narrower patterns

One pattern is within another if the other can take whatever it takes (`Pattern.Within`).  What
stands around the two does not matter: each form of a pattern keeps the relation (`Within.concat`,
`Within.choice`, `Within.repeated` and so on).

The reader never looks into what it has read, save at how deep it is.  So two readers that differ in
an item on one of their levels, the one's within the other's and no deeper
(`PatternParser.Within`), stay so with each step (`Within.step`): **what can be read after the wider
item can be read after the narrower one too, and the whole comes out narrower**
(`Within.exists_run`).  It is all the same what follows the item, be it a repetition that binds to
it, a bar or a flag list.
-/
import Highlighter.Proofs.Regex.Reading
import Highlighter.Proofs.Regex.Takes
import Mathlib.Data.List.Forall2

namespace Highlighter

/-! ## 1. Patterns -/

namespace Pattern

/-- The second pattern can take whatever the first one can take. -/
def Within (a b : Pattern) : Prop :=
  ∀ before taken after, a.Takes before taken after → b.Takes before taken after

/-- A choice that is kept apart takes what it takes. -/
theorem takes_apart {a : Pattern} {before : Option Char} {taken after : List Char} :
    (Scope.apart a).Takes before taken after ↔ a.Takes before taken after := by
  cases a with
  | alt a b =>
    constructor
    · rintro ⟨u, v, rfl, hu, rfl⟩
      rw [List.append_nil]
      exact hu
    · exact fun h => ⟨taken, [], (List.append_nil taken).symm, h, rfl⟩
  | _ => exact Iff.rfl

namespace Within

variable {a b c d : Pattern}

theorem refl (a : Pattern) : a.Within a := fun _ _ _ h => h

theorem alt (hac : a.Within c) (hbd : b.Within d) : (Pattern.alt a b).Within (.alt c d) := by
  intro before taken after h
  exact Or.imp (hac _ _ _) (hbd _ _ _) h

theorem repeated (h : a.Within b) (min : Nat) (max : Option Nat) (greedy : Bool) :
    (Pattern.repeated a min max greedy).Within (.repeated b min max greedy) := by
  rintro before taken after ⟨n, hmin, hmax, hn⟩
  exact ⟨n, hmin, hmax, hn.mono h⟩

theorem group (h : a.Within b) (index : Nat) :
    (Pattern.group index a).Within (.group index b) := by
  intro before taken after htakes
  exact h before taken after htakes

theorem concat {as bs : List Pattern} (h : List.Forall₂ Within as bs) :
    (Pattern.concat as).Within (Pattern.concat bs) := by
  induction h with
  | nil => exact refl _
  | cons hab _ ih =>
    intro before taken after htakes
    obtain ⟨u, v, heq, hu, hv⟩ := takes_concat_cons.mp htakes
    exact takes_concat_cons.mpr ⟨u, v, heq, hab _ _ _ hu, ih _ _ _ hv⟩

theorem choice {as bs : List Pattern} (h : List.Forall₂ Within as bs) :
    (Pattern.choice as).Within (Pattern.choice bs) := by
  induction h with
  | nil => exact refl _
  | cons hab hrest ih =>
    cases hrest with
    | nil => exact hab
    | cons _ _ => exact hab.alt ih

/-- Whether a choice is kept apart from the one around it does not matter. -/
theorem apart (h : a.Within b) : (Scope.apart a).Within (Scope.apart b) := by
  intro before taken after htakes
  exact takes_apart.mpr (h _ _ _ (takes_apart.mp htakes))

end Within

end Pattern

/-! ## 2. Levels of a pattern -/

/-- A pattern within another, and no deeper. -/
structure Nested.Within (m n : Nested Pattern) : Prop where
  value : m.value.Within n.value
  depth : m.depth ≤ n.depth

/-- An item of the same kind with a pattern within the other's, and no deeper. -/
structure Item.Within (x y : Item) : Prop where
  pattern : x.pattern.Within y.pattern
  depth : x.depth ≤ y.depth
  isDirective : x.isDirective = y.isDirective

/-- A level with items within the other's, one for one. -/
structure Scope.Within (s t : Scope) : Prop where
  alternatives : List.Forall₂ Nested.Within s.alternatives t.alternatives
  items : List.Forall₂ Item.Within s.items t.items

theorem Item.Within.refl (x : Item) : x.Within x := ⟨.refl _, Nat.le_refl _, rfl⟩

theorem foldl_max_mono {ds es : List Nat} (h : List.Forall₂ (· ≤ ·) ds es) {d e : Nat}
    (hde : d ≤ e) : ds.foldl max d ≤ es.foldl max e := by
  induction h generalizing d e with
  | nil => exact hde
  | cons hle _ ih => exact ih (by omega)

namespace Scope.Within

variable {s t : Scope}

theorem empty : Scope.empty.Within .empty := ⟨.nil, .nil⟩

theorem push (h : s.Within t) {x y : Item} (hxy : x.Within y) : (s.push x).Within (t.push y) :=
  ⟨h.alternatives, .cons hxy h.items⟩

/-- A sequence of narrower items is narrower. -/
theorem sequence (h : s.Within t) : s.sequence.Within t.sequence := by
  obtain ⟨alternatives, items⟩ := s
  obtain ⟨alternatives', items'⟩ := t
  obtain ⟨-, hitems⟩ := h
  dsimp only at hitems
  cases hitems with
  | nil => exact ⟨.refl _, Nat.le_refl _⟩
  | cons hxy hrest =>
    cases hrest with
    | nil => exact ⟨hxy.pattern, hxy.depth⟩
    | cons hxy' hrest =>
      have hall := List.Forall₂.cons hxy (List.Forall₂.cons hxy' hrest)
      constructor
      · refine .concat ?_
        rw [List.forall₂_map_left_iff, List.forall₂_map_right_iff, List.forall₂_reverse_iff]
        have hdirective : ∀ ⦃x y : Item⦄, x.Within y → ((!x.isDirective) ↔ (!y.isDirective)) :=
          fun _ _ h => h.isDirective ▸ Iff.rfl
        exact (List.rel_filter hdirective hall).imp fun _ _ h => h.pattern
      · refine Nat.succ_le_succ (foldl_max_mono ?_ (Nat.le_refl 0))
        rw [List.forall₂_map_left_iff, List.forall₂_map_right_iff]
        exact hall.imp fun _ _ h => h.depth

theorem alternate (h : s.Within t) : s.alternate.Within t.alternate :=
  ⟨.cons h.sequence h.alternatives, .nil⟩

/-- A level of narrower sequences is narrower. -/
theorem close (h : s.Within t) : s.close.Within t.close := by
  have hsequence := h.sequence
  obtain ⟨alternatives, items⟩ := s
  obtain ⟨alternatives', items'⟩ := t
  obtain ⟨halternatives, -⟩ := h
  dsimp only at halternatives
  cases halternatives with
  | nil => exact hsequence
  | cons hfirst hrest =>
    have halternatives := List.Forall₂.cons hfirst hrest
    constructor
    · refine .choice (List.rel_append ?_ (.cons hsequence.value.apart .nil))
      rw [List.forall₂_map_left_iff, List.forall₂_map_right_iff, List.forall₂_reverse_iff]
      exact halternatives.imp fun _ _ h => h.value
    · refine Nat.succ_le_succ (foldl_max_mono ?_ (Nat.le_refl 0))
      rw [List.forall₂_map_left_iff, List.forall₂_map_right_iff]
      exact (List.Forall₂.cons hsequence halternatives).imp fun _ _ h => h.depth

end Scope.Within

/-! ## 3. Readers -/

/-- An open group of the same kind, on a level within the other's. -/
structure OpenGroup.Within (x y : OpenGroup) : Prop where
  outer : x.outer.Within y.outer
  index : x.index = y.index
  flags : x.flags = y.flags

namespace PatternParser

/-- A reader that has read the same as another but for items within the other's. -/
structure Within (s t : PatternParser) : Prop where
  flags : s.flags = t.flags
  scope : s.scope.Within t.scope
  enclosing : List.Forall₂ OpenGroup.Within s.enclosing t.enclosing
  groups : s.groups = t.groups
  names : s.names = t.names

/-- If the wider reader comes through, so does the narrower one, to the same place. -/
def Follows (x y : Except PatternError (PatternParser × List Char)) : Prop :=
  ∀ t rest, y = .ok (t, rest) → ∃ s, x = .ok (s, rest) ∧ s.Within t

namespace Follows

variable {s t : PatternParser}

theorem ok (h : s.Within t) (rest : List Char) : Follows (.ok (s, rest)) (.ok (t, rest)) := by
  intro t' rest' heq
  obtain ⟨rfl, rfl⟩ := Prod.mk.inj (Except.ok.inj heq)
  exact ⟨s, rfl, h⟩

theorem error {x : Except PatternError (PatternParser × List Char)} (e : PatternError) :
    Follows x (.error e) := by
  intro _ _ heq
  cases heq

/-- Both begin with the same. -/
theorem bind {α : Type} (z : Except PatternError α)
    {f g : α → Except PatternError (PatternParser × List Char)}
    (h : ∀ a, Follows (f a) (g a)) : Follows (z >>= f) (z >>= g) := by
  cases z with
  | error e => exact error e
  | ok a => exact h a

end Follows

namespace Within

variable {s t : PatternParser}

theorem push (h : s.Within t) {a b : Pattern} (hab : a.Within b) {m n : Nat} (hmn : m ≤ n) :
    (s.push a m).Within (t.push b n) :=
  ⟨h.flags, h.scope.push ⟨hab, hmn, rfl⟩, h.enclosing, h.groups, h.names⟩

theorem openGroup (h : s.Within t) (index : Option Nat) (flags : PatternFlags) :
    (s.openGroup index flags).Within (t.openGroup index flags) :=
  ⟨rfl, .empty, .cons ⟨h.scope, rfl, h.flags⟩ h.enclosing, h.groups, h.names⟩

theorem openCapture (h : s.Within t) : s.openCapture.Within t.openCapture := by
  unfold PatternParser.openCapture
  rw [h.flags, h.groups]
  refine openGroup ?_ _ _
  exact ⟨rfl, h.scope, h.enclosing, rfl, h.names⟩

theorem openNamed (h : s.Within t) (cs : List Char) :
    Follows (s.openNamed cs) (t.openNamed cs) := by
  unfold PatternParser.openNamed
  rw [h.names]
  split
  · exact .error _
  · dsimp only
    split
    · exact .error _
    · split
      · exact .error _
      · refine .ok (openCapture ?_) _
        exact ⟨h.flags, h.scope, h.enclosing, h.groups, rfl⟩

theorem enterGroup (h : s.Within t) (cs : List Char) :
    Follows (s.enterGroup cs) (t.enterGroup cs) := by
  unfold PatternParser.enterGroup
  rw [h.flags]
  split
  · exact .error _
  · exact .error _
  · exact .error _
  · exact .error _
  · exact h.openNamed _
  · exact h.openNamed _
  · refine .bind _ fun (items, rest) => ?_
    dsimp only
    split
    · exact .error _
    · split
      · exact .error _
      · refine .ok ?_ _
        exact ⟨rfl, h.scope.push (.refl _), h.enclosing, h.groups, h.names⟩
      · exact .ok (h.openGroup none _) _
      · exact .error _
  · exact .ok h.openCapture _

theorem leaveGroup (h : s.Within t) (rest : List Char) :
    Follows (do return (← s.leaveGroup, rest)) (do return (← t.leaveGroup, rest)) := by
  obtain ⟨flags, scope, enclosing, groups, names⟩ := s
  obtain ⟨flags', scope', enclosing', groups', names'⟩ := t
  obtain ⟨-, hscope, henclosing, hgroups, hnames⟩ := h
  have hclose := hscope.close
  dsimp only at henclosing hgroups hnames hclose
  cases henclosing with
  | nil => exact .error _
  | @cons x y xs ys hxy hrest =>
    obtain ⟨outer, index, inner⟩ := x
    obtain ⟨outer', index', inner'⟩ := y
    obtain ⟨houter, hindex, hflags⟩ := hxy
    dsimp only at houter hindex hflags
    subst hindex
    have hdepth := Nat.succ_le_succ hclose.depth
    cases index with
    | none =>
      refine .ok ?_ rest
      exact ⟨hflags, houter.push ⟨hclose.value, hdepth, rfl⟩, hrest, hgroups, hnames⟩
    | some index =>
      refine .ok ?_ rest
      exact ⟨hflags, houter.push ⟨hclose.value.group index, hdepth, rfl⟩, hrest, hgroups, hnames⟩

theorem repeatLast (h : s.Within t) (min : Nat) (max : Option Nat) (rest : List Char) :
    Follows (s.repeatLast min max rest) (t.repeatLast min max rest) := by
  obtain ⟨flags, ⟨alternatives, items⟩, enclosing, groups, names⟩ := s
  obtain ⟨flags', ⟨alternatives', items'⟩, enclosing', groups', names'⟩ := t
  obtain ⟨hflags, ⟨halternatives, hitems⟩, henclosing, hgroups, hnames⟩ := h
  dsimp only at hflags halternatives hitems henclosing hgroups hnames
  subst hflags
  unfold PatternParser.repeatLast
  dsimp only
  cases hitems with
  | nil => exact .error _
  | @cons x y xs ys hxy hrest =>
    dsimp only
    rw [hxy.isDirective]
    split
    · exact .error _
    · refine .ok ?_ _
      refine ⟨rfl, ⟨halternatives, .cons ?_ hrest⟩, henclosing, hgroups, hnames⟩
      exact ⟨hxy.pattern.repeated min max _, Nat.succ_le_succ hxy.depth, rfl⟩

/-- **Each step keeps the one reader within the other.** -/
theorem step (h : s.Within t) (c : Char) (rest : List Char) :
    Follows (s.step c rest) (t.step c rest) := by
  unfold PatternParser.step
  rw [h.flags]
  split
  · exact h.enterGroup rest
  · exact h.leaveGroup rest
  · refine .ok ?_ rest
    exact ⟨rfl, h.scope.alternate, h.enclosing, h.groups, h.names⟩
  · exact .bind _ fun (s, rest) => .ok (h.push (.refl _) (Nat.le_refl _)) rest
  · exact h.repeatLast 0 (some 1) rest
  · exact h.repeatLast 0 none rest
  · exact h.repeatLast 1 none rest
  · split
    · exact .error _
    · exact h.repeatLast _ _ _
  · exact .bind _ fun (atom, rest) => .ok (h.push (.refl _) (Nat.le_refl _)) rest
  · exact .bind _ fun dot => .ok (h.push (.refl dot) (Nat.le_refl _)) rest
  · exact .ok (h.push (.refl _) (Nat.le_refl _)) rest
  · exact .ok (h.push (.refl _) (Nat.le_refl _)) rest
  · exact .ok (h.push (.refl _) (Nat.le_refl _)) rest

theorem exists_finish (h : s.Within t) {q : Pattern} (hq : t.finish = .ok q) :
    ∃ p, s.finish = .ok p ∧ p.Within q := by
  have hclose := h.scope.close
  have henclosing := h.enclosing
  unfold PatternParser.finish at hq ⊢
  split at hq
  · cases hq
  · rename_i hnil
    rw [hnil] at henclosing
    rw [List.forall₂_nil_right_iff.mp henclosing]
    dsimp only at hq ⊢
    split at hq
    · rename_i hdepth
      rw [if_pos (Nat.le_trans hclose.depth hdepth)]
      exact ⟨_, rfl, Except.ok.inj hq ▸ hclose.value⟩
    · cases hq

/-- **What the wider reader reads to the end, the narrower one reads too**, as a narrower pattern.
By induction on the steps. -/
theorem exists_run (h : s.Within t) {fuel : Nat} {cs : List Char} {q : Pattern}
    (hq : run fuel t cs = .ok q) : ∃ p, run fuel s cs = .ok p ∧ p.Within q := by
  induction fuel generalizing s t cs with
  | zero => exact h.exists_finish hq
  | succ fuel ih =>
    rw [run] at hq ⊢
    rw [h.flags]
    split at hq
    · exact h.exists_finish hq
    · rename_i c rest _
      cases hstep : t.step c rest with
      | error e =>
        rw [hstep] at hq
        cases hq
      | ok read =>
        obtain ⟨t', rest'⟩ := read
        obtain ⟨s', hs', hwithin⟩ := h.step c rest t' rest' hstep
        rw [hstep] at hq
        rw [hs']
        exact ih hwithin hq

end Within

end PatternParser

end Highlighter
