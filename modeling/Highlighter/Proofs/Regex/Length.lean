/-
# The least length of a match

`Pattern.minLength` reads off the form of a pattern how many characters a match takes at least.
Where it gives a number, **no text that the pattern can take is shorter**, whatever stands around it
(`Takes.minLength_le`).  It gives none only for a pattern with a part that can never match
(`exists_isEmpty_of_minLength`), and then it says nothing: a repetition of such a part can still take
the empty text.

The number itself does not depend on which parts can match (`Takes.floor_le`).
-/
import Highlighter.Proofs.Regex.Simplification
import Highlighter.Proofs.Regex.Takes

namespace Highlighter

/-- Iterations of at least `m` characters each. -/
theorem Repeats.mul_le {R : Option Char → List Char → List Char → Prop} {m : Nat}
    (h : ∀ before taken after, R before taken after → m ≤ taken.length) {n : Nat}
    {before : Option Char} {taken after : List Char} (hr : Repeats R n before taken after) :
    m * n ≤ taken.length := by
  induction hr with
  | none => exact Nat.le_refl _
  | more _ hlast ih =>
    have hlast := h _ _ _ hlast
    rw [Nat.mul_succ, List.length_append]
    exact Nat.add_le_add ih hlast

namespace Pattern

variable {a b : Pattern} {before : Option Char} {taken after : List Char}

/-- What is taken is as long as the pattern asks where each set has a member. -/
theorem Takes.floor_le (h : a.Takes before taken after) : a.floor ≤ taken.length := by
  induction a generalizing before taken after with
  | empty => exact Nat.zero_le _
  | look a => exact Nat.zero_le _
  | set s =>
    obtain ⟨c, -, rfl⟩ := h
    exact Nat.le_refl 1
  | seq a b iha ihb =>
    obtain ⟨u, v, rfl, hu, hv⟩ := h
    rw [List.length_append]
    exact Nat.add_le_add (iha hu) (ihb hv)
  | alt a b iha ihb =>
    rcases h with h | h
    · exact Nat.le_trans (Nat.min_le_left _ _) (iha h)
    · exact Nat.le_trans (Nat.min_le_right _ _) (ihb h)
  | repeated a min max greedy ih =>
    obtain ⟨k, hmin, -, hrepeats⟩ := h
    rw [floor, Nat.mul_comm]
    exact Nat.le_trans (Nat.mul_le_mul_left _ hmin) (hrepeats.mul_le fun _ _ _ h => ih h)
  | group index a ih => exact ih h

/-- A pattern has a least length if none of its sets keeps it from matching. -/
theorem minLength_of_not_blocked (h : a.blocked = false) : a.minLength = some a.floor := by
  rw [minLength_eq, h, Bool.false_and, if_neg Bool.false_ne_true]

theorem floor_of_minLength {n : Nat} (h : a.minLength = some n) : a.floor = n := by
  rw [minLength_eq] at h
  split at h
  · cases h
  · exact Option.some.inj h

/-- **No text that a pattern can take is shorter than its least length.** -/
theorem Takes.minLength_le {n : Nat} (hn : a.minLength = some n)
    (h : a.Takes before taken after) : n ≤ taken.length :=
  floor_of_minLength hn ▸ h.floor_le

/-- A match takes as many characters as its pattern needs. -/
theorem le_length_of_match? {rest : List Char} {m : Match} {n : Nat} (hn : a.minLength = some n)
    (h : a.match? before rest = some m) : n ≤ m.length := by
  have hle := (takes_of_match? h).minLength_le hn
  rwa [List.length_take, Nat.min_eq_left (length_le_of_match? h)] at hle

/-- A pattern is blocked by one of its sets. -/
theorem exists_isEmpty_of_blocked (h : a.blocked = true) : ∃ s ∈ a.sets, s.isEmpty = true := by
  have hsides : ∀ {b c : Pattern}, (∃ s ∈ b.sets, s.isEmpty = true) ∨
      (∃ s ∈ c.sets, s.isEmpty = true) → ∃ s ∈ b.sets ++ c.sets, s.isEmpty = true := by
    rintro b c (⟨s, hs, hempty⟩ | ⟨s, hs, hempty⟩)
    · exact ⟨s, List.mem_append_left _ hs, hempty⟩
    · exact ⟨s, List.mem_append_right _ hs, hempty⟩
  induction a with
  | empty => cases h
  | look a => cases h
  | set s => exact ⟨s, List.mem_singleton_self s, h⟩
  | seq a b iha ihb => exact hsides ((Bool.or_eq_true_iff.mp h).imp iha ihb)
  | alt a b iha ihb => exact hsides ((Bool.or_eq_true_iff.mp h).imp iha ihb)
  | repeated a min max greedy ih => exact ih (Bool.and_eq_true_iff.mp h).2
  | group index a ih => exact ih h

/-- **A pattern has a least length unless one of its sets has no member.** -/
theorem exists_isEmpty_of_minLength (h : a.minLength = none) :
    ∃ s ∈ a.sets, s.isEmpty = true := by
  rw [minLength_eq] at h
  split at h
  · rename_i hblocked
    exact exists_isEmpty_of_blocked (Bool.and_eq_true_iff.mp hblocked).1
  · cases h

end Pattern

end Highlighter
