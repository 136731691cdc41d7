/-
# Simplifying keeps the length

The least length of a pattern is that of the simplified pattern, but **it can be read off the
pattern as it stands** (`minLength_eq`), so that nothing else has to be said of what simplifying
does.  The reason is that simplifying leaves the number of characters that a pattern asks for, and
adds no set without members (`reduces_simplify`).

Sides of a choice are taken apart, united and begun in common, so the two facts are about the sides
as a whole (`Pattern.Reduces`).
-/
import Highlighter.Regex.Analysis
import Mathlib.Data.List.SplitBy

namespace Highlighter

/-- A union is empty only if both of its sides are. -/
theorem CharSet.isEmpty_of_union {s t : CharSet} (h : (union s t).isEmpty = true) :
    s.isEmpty = true ∧ t.isEmpty = true := by
  simp only [isEmpty, Bool.not_eq_true', List.any_eq_false, probes, breaks, contains_union,
    List.mem_cons, List.mem_append, Bool.and_eq_true, Bool.or_eq_true, not_and, not_or] at h ⊢
  exact ⟨fun n hn hvalid => (h n (hn.imp_right (Or.imp_left .inl)) hvalid).1,
    fun n hn hvalid => (h n (hn.imp_right (Or.imp_left .inr)) hvalid).2⟩

theorem CharSet.isEmpty_of_unions {sets : List CharSet} (h : (unions sets).isEmpty = true) :
    ∀ s ∈ sets, s.isEmpty = true := by
  induction sets with
  | nil => exact fun s hs => by cases hs
  | cons s sets ih =>
    cases sets with
    | nil => exact List.forall_mem_singleton.mpr h
    | cons t sets =>
      obtain ⟨hs, hsets⟩ := isEmpty_of_union h
      exact List.forall_mem_cons.mpr ⟨hs, ih hsets⟩

namespace Pattern

/-! ## 1. Sequences -/

/-- The characters that patterns ask for, one after the other. -/
def totalFloor : List Pattern → Nat
  | [] => 0
  | p :: ps => p.floor + totalFloor ps

/-- Whether one of the patterns is blocked. -/
def anyBlocked (ps : List Pattern) : Bool := ps.any blocked

@[simp] theorem totalFloor_nil : totalFloor [] = 0 := rfl

@[simp] theorem totalFloor_cons (p : Pattern) (ps : List Pattern) :
    totalFloor (p :: ps) = p.floor + totalFloor ps := rfl

@[simp] theorem totalFloor_append (ps qs : List Pattern) :
    totalFloor (ps ++ qs) = totalFloor ps + totalFloor qs := by
  induction ps with
  | nil => exact (Nat.zero_add _).symm
  | cons p ps ih => simp [ih, Nat.add_assoc]

@[simp] theorem anyBlocked_nil : anyBlocked [] = false := rfl

@[simp] theorem anyBlocked_cons (p : Pattern) (ps : List Pattern) :
    anyBlocked (p :: ps) = (p.blocked || anyBlocked ps) := rfl

@[simp] theorem anyBlocked_append (ps qs : List Pattern) :
    anyBlocked (ps ++ qs) = (anyBlocked ps || anyBlocked qs) := List.any_append

theorem floor_concat (ps : List Pattern) : (concat ps).floor = totalFloor ps := by
  induction ps with
  | nil => rfl
  | cons p ps ih =>
    cases ps with
    | nil => rfl
    | cons q ps => exact congrArg (p.floor + ·) ih

theorem blocked_concat (ps : List Pattern) : (concat ps).blocked = anyBlocked ps := by
  induction ps with
  | nil => rfl
  | cons p ps ih =>
    cases ps with
    | nil => exact (Bool.or_false _).symm
    | cons q ps => exact congrArg (p.blocked || ·) ih

theorem totalFloor_parts (p : Pattern) : totalFloor p.parts = p.floor := by
  induction p with
  | seq p q ihp ihq => simp [parts, floor, ihp, ihq]
  | _ => rfl

theorem anyBlocked_parts (p : Pattern) : anyBlocked p.parts = p.blocked := by
  induction p with
  | empty => rfl
  | seq p q ihp ihq => simp [parts, blocked, ihp, ihq]
  | _ => simp [parts]

theorem floor_joined (ps : List Pattern) : (joined ps).floor = totalFloor ps := by
  rw [joined, floor_concat]
  induction ps with
  | nil => rfl
  | cons p ps ih => simp [totalFloor_parts, ih]

theorem blocked_joined (ps : List Pattern) : (joined ps).blocked = anyBlocked ps := by
  rw [joined, blocked_concat]
  induction ps with
  | nil => rfl
  | cons p ps ih => simp [anyBlocked_parts, ih]

/-- Taking the parts of a sequence together changes neither. -/
theorem totalFloor_map_concat (pss : List (List Pattern)) :
    totalFloor (pss.map concat) = totalFloor pss.flatten := by
  induction pss with
  | nil => rfl
  | cons ps pss ih => simp [floor_concat, ih]

theorem anyBlocked_map_concat (pss : List (List Pattern)) :
    anyBlocked (pss.map concat) = anyBlocked pss.flatten := by
  induction pss with
  | nil => rfl
  | cons ps pss ih => simp [blocked_concat, ih]

theorem totalFloor_elements (p : Pattern) : totalFloor p.elements = p.floor := by
  rw [elements, totalFloor_map_concat, List.flatten_splitBy, totalFloor_parts]

theorem anyBlocked_elements (p : Pattern) : anyBlocked p.elements = p.blocked := by
  rw [elements, anyBlocked_map_concat, List.flatten_splitBy, anyBlocked_parts]

/-! ## 2. What sides have in common -/

/-- Patterns that differ only in the way their sets are written ask for the same. -/
theorem floor_of_alike {p q : Pattern} (h : p.alike q = true) : p.floor = q.floor := by
  fun_induction alike p q <;> simp_all [floor]

theorem totalFloor_take_of_le_commonLength {ps qs : List Pattern} {n : Nat}
    (h : n ≤ commonLength ps qs) : totalFloor (ps.take n) = totalFloor (qs.take n) := by
  induction ps generalizing qs n with
  | nil =>
    obtain rfl := Nat.le_zero.mp h
    rfl
  | cons p ps ih =>
    cases n with
    | zero => rfl
    | succ n =>
      cases qs with
      | nil => cases h
      | cons q qs =>
        rw [commonLength, List.zip_cons_cons, List.takeWhile_cons] at h
        dsimp only at h
        split at h
        · rename_i hpq
          have hrest := ih (Nat.le_of_succ_le_succ h)
          simp [floor_of_alike hpq, hrest]
        · cases h

/-- What is taken out of all sequences asks for the same in each of them. -/
theorem totalFloor_take_sharedLength (first : List Pattern) (others : List (List Pattern)) :
    ∀ ps ∈ first :: others, totalFloor (ps.take (sharedLength first others)) =
      totalFloor (first.take (sharedLength first others)) := by
  refine List.forall_mem_cons.mpr ⟨rfl, fun ps hps => ?_⟩
  rw [sharedLength]
  split
  · refine (totalFloor_take_of_le_commonLength ?_).symm
    -- The least of the lengths, the one of `first` among them, is no more than any of them.
    exact (List.le_min?_iff List.min?_cons').mp (Nat.le_refl _) _
      (List.mem_cons_of_mem _ (List.mem_map_of_mem hps))
  · rfl

/-! ## 3. Choices -/

theorem alternatives_ne_nil (p : Pattern) : p.alternatives ≠ [] := by
  induction p with
  | alt p q ihp _ => exact List.append_ne_nil_of_left_ne_nil ihp _
  | _ => exact List.cons_ne_nil _ _

/-- The sides of a choice come to other sides: the shortest of each ask for the same, and none of
the others is blocked unless one of the first is. -/
structure Reduces (ps qs : List Pattern) : Prop where
  floor : ∀ n, (∀ q ∈ qs, n ≤ q.floor) ↔ ∀ p ∈ ps, n ≤ p.floor
  blocked : anyBlocked qs = true → anyBlocked ps = true

namespace Reduces

variable {p q : Pattern} {ps qs rs ps' qs' : List Pattern}

theorem refl (ps : List Pattern) : Reduces ps ps := ⟨fun _ => Iff.rfl, id⟩

theorem trans (h : Reduces ps qs) (h' : Reduces qs rs) : Reduces ps rs :=
  ⟨fun n => (h'.floor n).trans (h.floor n), h.blocked ∘ h'.blocked⟩

theorem append (h : Reduces ps qs) (h' : Reduces ps' qs') : Reduces (ps ++ ps') (qs ++ qs') where
  floor n := by rw [List.forall_mem_append, List.forall_mem_append, h.floor, h'.floor]
  blocked := by
    rw [anyBlocked_append, anyBlocked_append, Bool.or_eq_true, Bool.or_eq_true]
    exact Or.imp h.blocked h'.blocked

/-- A choice comes to its sides, and they come to it. -/
theorem alt (p q : Pattern) : Reduces [.alt p q] [p, q] where
  floor n := by
    rw [List.forall_mem_singleton, Pattern.floor, Nat.le_min, List.forall_mem_cons,
      List.forall_mem_singleton]
  blocked h := by simpa [Pattern.blocked] using h

theorem of_alt (p q : Pattern) : Reduces [p, q] [.alt p q] where
  floor n := ((alt p q).floor n).symm
  blocked h := by simpa [Pattern.blocked] using h

theorem choice (hne : ps ≠ []) : Reduces ps [.choice ps] := by
  induction ps with
  | nil => exact absurd rfl hne
  | cons p ps ih =>
    cases ps with
    | nil => exact refl _
    | cons q ps => exact ((refl [p]).append (ih (List.cons_ne_nil q ps))).trans (of_alt p _)

theorem alternatives (p : Pattern) : Reduces [p] p.alternatives := by
  induction p with
  | alt p q ihp ihq => exact (alt p q).trans (ihp.append ihq)
  | _ => exact refl _

theorem flatMap_alternatives (ps : List Pattern) :
    Reduces ps (ps.flatMap Pattern.alternatives) := by
  induction ps with
  | nil => exact refl _
  | cons p ps ih => exact (alternatives p).append ih

/-- One pattern comes to one that asks for the same and is not blocked unless it is. -/
theorem single_iff : Reduces [p] [q] ↔
    q.floor = p.floor ∧ (q.blocked = true → p.blocked = true) := by
  constructor
  · rintro ⟨hfloor, hblocked⟩
    simp only [List.mem_singleton, forall_eq] at hfloor
    refine ⟨Nat.le_antisymm ((hfloor _).mp (Nat.le_refl _)) ((hfloor _).mpr (Nat.le_refl _)), ?_⟩
    simpa using hblocked
  · rintro ⟨hfloor, hblocked⟩
    exact ⟨fun n => by simp [hfloor], by simpa using hblocked⟩

end Reduces

/-! ## 4. Sets and common beginnings -/

/-- A pattern of one set. -/
theorem exists_of_asSet? {p : Pattern} {f : CharSet → Bool} (h : p.asSet?.any f = true) :
    ∃ s, p = set s := by
  cases p with
  | set s => exact ⟨s, rfl⟩
  | _ => cases h

namespace Reduces

variable {ps : List Pattern}

/-- Sets come to their union. -/
theorem union (hne : ps ≠ []) (hsets : ∀ p ∈ ps, ∃ s, p = set s) :
    Reduces ps [set (.unions (ps.filterMap asSet?))] := by
  have hfloor : ∀ p ∈ ps, p.floor = 1 := by
    intro p hp
    obtain ⟨s, rfl⟩ := hsets p hp
    rfl
  obtain ⟨p, hp⟩ := List.exists_mem_of_ne_nil ps hne
  refine ⟨fun n => ?_, fun h => ?_⟩
  · simp only [List.mem_singleton, forall_eq, Pattern.floor]
    exact ⟨fun h q hq => hfloor q hq ▸ h, fun h => hfloor p hp ▸ h p hp⟩
  · obtain ⟨s, rfl⟩ := hsets p hp
    have hempty : (CharSet.unions (ps.filterMap asSet?)).isEmpty = true := by
      simpa [Pattern.blocked] using h
    have hs : s ∈ ps.filterMap asSet? := List.mem_filterMap.mpr ⟨_, hp, rfl⟩
    exact List.any_eq_true.mpr ⟨_, hp, CharSet.isEmpty_of_unions hempty s hs⟩

theorem united (hne : ps ≠ []) : Reduces ps [.united ps] := by
  unfold Pattern.united
  split
  · rename_i h
    refine union hne fun p hp => ?_
    rcases Bool.or_eq_true_iff.mp h with h | h
    · exact exists_of_asSet? (List.all_eq_true.mp h p hp)
    · exact exists_of_asSet? (List.all_eq_true.mp h p hp)
  · exact choice hne

/-- What all sides of a choice begin with can be taken out of it, whatever they go on with. -/
theorem begun {p q : Pattern} {n : Nat} (hp : p ∈ ps)
    (hshared : ∀ r ∈ ps, totalFloor (r.elements.take n) = totalFloor (p.elements.take n))
    (hrests : Reduces (ps.map fun r => joined (r.elements.drop n)) [q]) :
    Reduces ps [joined (p.elements.take n ++ [q])] := by
  have hsplit (r : Pattern) : r.elements = r.elements.take n ++ r.elements.drop n :=
    (List.take_append_drop n _).symm
  refine ⟨fun m => ?_, fun h => ?_⟩
  · have hfloor : ∀ r ∈ ps,
        r.floor = totalFloor (p.elements.take n) + (joined (r.elements.drop n)).floor := by
      intro r hr
      rw [← hshared r hr, floor_joined, ← totalFloor_append, ← hsplit, totalFloor_elements]
    have hrests := hrests.floor (m - totalFloor (p.elements.take n))
    simp only [List.mem_singleton, forall_eq, List.forall_mem_map, Nat.sub_le_iff_le_add'] at hrests
    simp only [List.mem_singleton, forall_eq, floor_joined, totalFloor_append, totalFloor_cons,
      totalFloor_nil, Nat.add_zero] at hrests ⊢
    rw [hrests]
    exact forall₂_congr fun r hr => by rw [hfloor r hr, floor_joined]
  · have hblocked (r : Pattern) : r.blocked =
        (anyBlocked (r.elements.take n) || (joined (r.elements.drop n)).blocked) := by
      rw [blocked_joined, ← anyBlocked_append, ← hsplit, anyBlocked_elements]
    simp only [anyBlocked_cons, anyBlocked_nil, Bool.or_false, blocked_joined, anyBlocked_append,
      Bool.or_eq_true] at h
    refine List.any_eq_true.mpr ?_
    rcases h with h | h
    · exact ⟨p, hp, by rw [hblocked, h, Bool.true_or]⟩
    · obtain ⟨rest, hrest, hempty⟩ := List.any_eq_true.mp (hrests.blocked (by simpa using h))
      obtain ⟨r, hr, rfl⟩ := List.mem_map.mp hrest
      exact ⟨r, hr, by rw [hblocked, hempty, Bool.or_true]⟩

/-- **What all sides begin with can be taken out of the choice between them.** -/
theorem chosen (hne : ps ≠ []) : Reduces ps [.chosen ps] := by
  match ps with
  | [] => exact absurd rfl hne
  | [p] => exact refl _
  | p :: q :: ps =>
    rw [Pattern.chosen.eq_def]
    dsimp only
    split
    · exact united hne
    · refine begun List.mem_cons_self (fun r hr => ?_) ((flatMap_alternatives _).trans (united ?_))
      · exact totalFloor_take_sharedLength p.elements _ _ (List.mem_map_of_mem (f := elements) hr)
      · intro hnil
        have hone := List.flatMap_eq_nil_iff.mp hnil _ (List.mem_map_of_mem List.mem_cons_self)
        exact alternatives_ne_nil _ hone

end Reduces

/-! ## 5. Whole patterns -/

theorem floor_of_onlyEmpty {p : Pattern} (h : p.onlyEmpty = true) : p.floor = 0 := by
  induction p with
  | empty => rfl
  | look a => rfl
  | set s => cases h
  | seq p q ihp ihq =>
    obtain ⟨hp, hq⟩ := Bool.and_eq_true_iff.mp h
    rw [floor, ihp hp, ihq hq]
  | alt p q ihp ihq =>
    obtain ⟨hp, hq⟩ := Bool.and_eq_true_iff.mp h
    rw [floor, ihp hp, ihq hq, Nat.min_self]
  | repeated p min max greedy ih =>
    rw [floor]
    rcases Bool.or_eq_true_iff.mp h with h | h
    · rw [ih h, Nat.mul_zero]
    · rw [eq_of_beq (Bool.and_eq_true_iff.mp h).1, Nat.zero_mul]
  | group index p ih => exact ih h

/-- Cutting the bounds of a repetition leaves what it asks for. -/
theorem bounds_fst_mul_floor (p : Pattern) (min : Nat) (max : Option Nat) :
    (p.bounds min max).1 * p.floor = min * p.floor := by
  unfold bounds
  split
  · rename_i h
    rw [floor_of_onlyEmpty h, Nat.mul_zero, Nat.mul_zero]
  · rfl

theorem sides_ne_nil (p : Pattern) : p.sides ≠ [] := by
  induction p with
  | alt p q _ ihq => exact List.append_ne_nil_of_right_ne_nil _ ihq
  | seq p q _ _ => exact alternatives_ne_nil _
  | repeated p min max greedy _ =>
    rw [sides]
    split
    · exact List.cons_ne_nil _ _
    · exact alternatives_ne_nil _
    · exact List.cons_ne_nil _ _
  | _ => exact List.cons_ne_nil _ _

namespace Reduces

variable {p p' q q' : Pattern}

theorem seq (hp : Reduces [p] [p']) (hq : Reduces [q] [q']) :
    Reduces [.seq p q] [joined [p', q']] := by
  obtain ⟨hfloorp, hblockedp⟩ := single_iff.mp hp
  obtain ⟨hfloorq, hblockedq⟩ := single_iff.mp hq
  refine single_iff.mpr ⟨?_, ?_⟩
  · simp [floor_joined, hfloorp, hfloorq, Pattern.floor]
  · simp only [blocked_joined, anyBlocked_cons, anyBlocked_nil, Bool.or_false, Pattern.blocked,
      Bool.or_eq_true]
    exact Or.imp hblockedp hblockedq

/-- A repetition with its bounds cut, if it runs. -/
theorem repeated (h : Reduces [p] [q]) {min min' : Nat} {max max' : Option Nat} {greedy : Bool}
    (hruns : p.neverRuns min max = false) (hbounds : p.bounds min max = (min', max')) :
    Reduces [.repeated p min max greedy] [.repeated q min' max' greedy] := by
  obtain ⟨hfloor, hblocked⟩ := single_iff.mp h
  have hcut := p.bounds_fst_mul_floor min max
  rw [hbounds] at hcut
  refine single_iff.mpr ⟨?_, fun h => ?_⟩
  · rw [Pattern.floor, hfloor, hcut, Pattern.floor]
  · rw [Pattern.blocked, hruns, hblocked (Bool.and_eq_true_iff.mp h).2]
    rfl

/-- A repetition of one iteration is what it repeats. -/
theorem once (h : Reduces [p] [q]) {min : Nat} {max : Option Nat} {greedy : Bool}
    (hbounds : p.bounds min max = (1, some 1)) : Reduces [.repeated p min max greedy] [q] := by
  obtain ⟨hfloor, hblocked⟩ := single_iff.mp h
  have hcut := p.bounds_fst_mul_floor min max
  rw [hbounds, Nat.one_mul] at hcut
  refine single_iff.mpr ⟨?_, fun h => ?_⟩
  · rw [hfloor, hcut, Pattern.floor]
  · rw [Pattern.blocked, neverRuns, hbounds, hblocked h]
    rfl

/-- A repetition that never runs is empty. -/
theorem never {min : Nat} {max : Option Nat} {greedy : Bool}
    (hbounds : p.bounds min max = (0, some 0)) :
    Reduces [.repeated p min max greedy] [.empty] := by
  have hcut := p.bounds_fst_mul_floor min max
  rw [hbounds, Nat.zero_mul] at hcut
  exact single_iff.mpr ⟨hcut, fun h => by cases h⟩

end Reduces

/-- A pattern comes to its sides. -/
theorem reduces_sides (p : Pattern) : Reduces [p] p.sides := by
  have hchosen {p : Pattern} (h : Reduces [p] p.sides) : Reduces [p] [chosen p.sides] :=
    h.trans (.chosen p.sides_ne_nil)
  induction p with
  | alt p q ihp ihq =>
    exact (Reduces.alt p q).trans (((hchosen ihp).trans (.alternatives _)).append ihq)
  | seq p q ihp ihq => exact ((hchosen ihp).seq (hchosen ihq)).trans (.alternatives _)
  | repeated p min max greedy ih =>
    rw [sides]
    split
    · rename_i hbounds
      exact .never hbounds
    · rename_i hbounds
      exact ((hchosen ih).once hbounds).trans (.alternatives _)
    · rename_i min' max' hnever _ hbounds
      refine (hchosen ih).repeated ?_ hbounds
      rw [neverRuns, hbounds, beq_eq_false_iff_ne]
      exact fun h => hnever (Prod.mk.inj h).1 (Prod.mk.inj h).2
  | group index p ih =>
    obtain ⟨hfloor, hblocked⟩ := Reduces.single_iff.mp (hchosen ih)
    exact Reduces.single_iff.mpr ⟨hfloor, hblocked⟩
  | _ => exact .refl _

/-- **A simplified pattern asks for as many characters as it did, and it is not blocked unless it
was.** -/
theorem reduces_simplify (p : Pattern) : Reduces [p] [p.simplify] :=
  (reduces_sides p).trans (.chosen p.sides_ne_nil)

/-- **The least length of a pattern can be read off the pattern as it stands**, where it has one;
it has none only if the pattern is blocked as it stands, too. -/
theorem minLength_eq (p : Pattern) :
    p.minLength = if p.blocked && p.simplify.blocked then none else some p.floor := by
  obtain ⟨hfloor, hblocked⟩ := Reduces.single_iff.mp (reduces_simplify p)
  rw [minLength, hfloor]
  cases h : p.simplify.blocked with
  | false => rw [Bool.and_false]
  | true => rw [hblocked h, Bool.and_self]

/-- The two characters are one set, and the set without members is gone with that. -/
example : minLength (repeated (alt (alt (char 'a') (char 'b')) (set .empty)) 0 none true) =
    some 0 := by
  decide

end Pattern

end Highlighter
