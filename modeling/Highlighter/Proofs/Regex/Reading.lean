/-
# Reading patterns step by step

The reader of patterns takes one step for each item and counts them against the length of the text.
`PatternParser.Reads` says that it comes from one place of the text to a later one, whatever it is
given to go on from there; such stretches are put together (`Reads.trans`), and **one that comes to
the end of the text is the reading of the whole pattern** (`Reads.parse`).

What a level of a pattern comes to is its alternatives, each of them its items one after the other
(`Scope.value_close`, `Scope.value_sequence`).
-/
import Highlighter.Regex.Parser

namespace Highlighter

/-! ## 1. Levels of a pattern -/

namespace Scope

theorem foldl_max_le {bound : Nat} {depths : List Nat} (h : ∀ d ∈ depths, d ≤ bound) :
    depths.foldl max 0 ≤ bound :=
  List.foldlRecOn (motive := (· ≤ bound)) depths max (Nat.zero_le bound)
    fun _ hle d hd => Nat.max_le.mpr ⟨hle, h d hd⟩

/-- A sequence without directives is its items one after the other. -/
theorem value_sequence {s : Scope} (h : ∀ item ∈ s.items, item.isDirective = false) :
    s.sequence.value = .concat (s.items.reverse.map (·.pattern)) := by
  obtain ⟨alternatives, items⟩ := s
  match items with
  | [] => rfl
  | [item] => rfl
  | first :: second :: items =>
    have hfilter : (first :: second :: items).filter (!·.isDirective) = first :: second :: items :=
      List.filter_eq_self.mpr fun item hitem => by rw [h item hitem]; rfl
    rw [sequence]
    dsimp only
    rw [hfilter]

theorem depth_sequence_le {s : Scope} {bound : Nat} (h : ∀ item ∈ s.items, item.depth ≤ bound) :
    s.sequence.depth ≤ bound + 1 := by
  obtain ⟨alternatives, items⟩ := s
  match items with
  | [] => exact Nat.zero_le _
  | [item] => exact Nat.le_succ_of_le (h item List.mem_cons_self)
  | first :: second :: items =>
    exact Nat.succ_le_succ (foldl_max_le (List.forall_mem_map.mpr h))

/-- A level is the choice between its alternatives and its last sequence, if that is no choice. -/
theorem value_close {s : Scope} (h : apart s.sequence.value = s.sequence.value) :
    s.close.value = .choice (s.alternatives.reverse.map (·.value) ++ [s.sequence.value]) := by
  obtain ⟨alternatives, items⟩ := s
  cases alternatives with
  | nil => rfl
  | cons first others =>
    rw [close]
    dsimp only
    rw [h]

theorem depth_close_le {s : Scope} {bound : Nat} (hlast : s.sequence.depth ≤ bound)
    (h : ∀ nested ∈ s.alternatives, nested.depth ≤ bound) : s.close.depth ≤ bound + 1 := by
  obtain ⟨alternatives, items⟩ := s
  cases alternatives with
  | nil => exact Nat.le_succ_of_le hlast
  | cons first others =>
    refine Nat.succ_le_succ (foldl_max_le (List.forall_mem_map.mpr ?_))
    exact List.forall_mem_cons.mpr ⟨hlast, h⟩

theorem le_foldl_max {depths : List Nat} {d : Nat} (h : d ∈ depths) :
    d ≤ depths.foldl max 0 := by
  rw [List.foldl_max_eq_max (List.ne_nil_of_mem h)]
  exact Nat.le_trans (List.le_max_of_mem h) (Nat.le_max_right _ _)

/-- A level is as deep as each of its alternatives at least. -/
theorem le_depth_close {s : Scope} {nested : Nested Pattern}
    (h : nested ∈ s.alternatives.reverse ++ [s.sequence]) : nested.depth ≤ s.close.depth := by
  obtain ⟨alternatives, items⟩ := s
  cases alternatives with
  | nil =>
    obtain rfl := List.mem_singleton.mp h
    exact Nat.le_refl _
  | cons first others =>
    rw [List.mem_append, List.mem_reverse, List.mem_singleton] at h
    exact Nat.le_succ_of_le (le_foldl_max (List.mem_map_of_mem (List.mem_cons.mpr h.symm)))

end Scope

/-! ## 2. Steps of the reader -/

namespace PatternParser

/-- The reader comes from one place to the other, in no more steps than there are characters between
them. -/
def Reads (st : PatternParser) (cs : List Char) (st' : PatternParser) (cs' : List Char) : Prop :=
  ∃ steps, steps + cs'.length ≤ cs.length ∧ ∀ fuel, run (fuel + steps) st cs = run fuel st' cs'

section

variable {st st' st'' : PatternParser} {cs cs' cs'' rest rest' : List Char} {c : Char}

theorem Reads.refl (st : PatternParser) (cs : List Char) : Reads st cs st cs :=
  ⟨0, Nat.le_of_eq (Nat.zero_add _), fun _ => rfl⟩

theorem Reads.trans (h : Reads st cs st' cs') (h' : Reads st' cs' st'' cs'') :
    Reads st cs st'' cs'' := by
  obtain ⟨i, hi, hrun⟩ := h
  obtain ⟨j, hj, hrun'⟩ := h'
  refine ⟨j + i, by omega, fun fuel => ?_⟩
  rw [← Nat.add_assoc, hrun, hrun']

/-- One step, where blanks mean themselves. -/
theorem Reads.of_step (hverbose : st.flags.verbose = false)
    (h : st.step c rest = .ok (st', rest')) (hle : rest'.length ≤ rest.length) :
    Reads st (c :: rest) st' rest' := by
  refine ⟨1, by rw [List.length_cons]; omega, fun fuel => ?_⟩
  rw [run, hverbose]
  dsimp only [PatternReader.skip]
  rw [if_neg Bool.false_ne_true]
  dsimp only
  rw [h]
  rfl

theorem run_nil (fuel : Nat) (st : PatternParser) : run fuel st [] = st.finish := by
  cases fuel with
  | zero => rfl
  | succ fuel =>
    rw [run]
    cases st.flags.verbose <;> rfl

/-- **A text that is read to its end** is the pattern that the reader has then. -/
theorem Reads.parse {flags : PatternFlags} {text : String} {p : Pattern}
    (h : Reads (.start flags) text.toList st []) (hfinish : st.finish = .ok p) :
    Pattern.parse flags text = .ok p := by
  obtain ⟨steps, hle, hrun⟩ := h
  have hsplit : text.toList.length = text.toList.length - steps + steps := by
    rw [List.length_nil] at hle
    omega
  rw [Pattern.parse, hsplit, hrun, run_nil, hfinish]

end

end PatternParser

end Highlighter
