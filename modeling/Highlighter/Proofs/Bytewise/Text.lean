/-
# Byte offsets of a text

A byte offset lies between two characters just if it is the length of what is before it
(`split?_eq_some_iff`), and a slice between two such offsets is the text between them
(`slice_append`).  Going from numbers of characters to byte offsets keeps the order
(`byteLength_take_le_iff`), as every character takes a byte at least.
-/
import Highlighter.Proofs.Bytewise.Machine

namespace Highlighter

namespace Bytewise

/-! ## 1. Lengths -/

theorem byteLength_eq_zero_iff {text : List Char} : byteLength text = 0 ↔ text = [] := by
  cases text with
  | nil => simp
  | cons c text =>
    have := c.utf8Size_pos
    simp only [byteLength_cons, reduceCtorEq, iff_false]
    omega

theorem byteLength_take_add_drop (text : List Char) (count : Nat) :
    byteLength (text.take count) + byteLength (text.drop count) = byteLength text := by
  rw [← byteLength_append, List.take_append_drop]

theorem byteLength_take_lt {text : List Char} {i j : Nat} (h : i < j) (hj : j ≤ text.length) :
    byteLength (text.take i) < byteLength (text.take j) := by
  have hsplit := byteLength_take_add_drop (text.take j) i
  rw [List.take_take, Nat.min_eq_left (Nat.le_of_lt h)] at hsplit
  have hpos : byteLength ((text.take j).drop i) ≠ 0 := by
    rw [Ne, byteLength_eq_zero_iff, List.drop_eq_nil_iff, List.length_take]
    omega
  omega

theorem byteLength_take_le_iff {text : List Char} {i j : Nat} (hi : i ≤ text.length)
    (hj : j ≤ text.length) : byteLength (text.take i) ≤ byteLength (text.take j) ↔ i ≤ j := by
  constructor
  · intro h
    rcases Nat.lt_or_ge j i with hlt | hle
    · have := byteLength_take_lt hlt hi
      omega
    · exact hle
  · intro h
    rcases Nat.lt_or_eq_of_le h with hlt | rfl
    · exact Nat.le_of_lt (byteLength_take_lt hlt hj)
    · exact Nat.le_refl _

/-! ## 2. Splitting and slicing -/

theorem split?_zero_eq_some_iff {text before rest : List Char} :
    split? text 0 = some (before, rest) ↔ text = before ++ rest ∧ byteLength before = 0 := by
  rw [byteLength_eq_zero_iff, split?, Option.some.injEq, Prod.mk.injEq]
  constructor
  · rintro ⟨rfl, rfl⟩
    exact ⟨rfl, rfl⟩
  · rintro ⟨rfl, rfl⟩
    exact ⟨rfl, rfl⟩

/-- **An offset between characters is the length of what is before it.** -/
theorem split?_eq_some_iff {text : List Char} {pos : Nat} {before rest : List Char} :
    split? text pos = some (before, rest) ↔ text = before ++ rest ∧ byteLength before = pos := by
  induction text generalizing pos before with
  | nil =>
    cases pos with
    | zero => exact split?_zero_eq_some_iff
    | succ pos =>
      simp only [split?, reduceCtorEq, false_iff]
      rintro ⟨h, hb⟩
      obtain ⟨rfl, -⟩ := List.append_eq_nil_iff.mp h.symm
      simp at hb
  | cons c text ih =>
    cases pos with
    | zero => exact split?_zero_eq_some_iff
    | succ pos =>
      have hc := c.utf8Size_pos
      simp only [split?]
      split
      · rename_i hlt
        simp only [reduceCtorEq, false_iff]
        rintro ⟨h, hb⟩
        cases before with
        | nil => simp at hb
        | cons d before =>
          obtain ⟨rfl, -⟩ := List.cons.inj h
          rw [byteLength_cons] at hb
          omega
      · rename_i hge
        simp only [Option.map_eq_some_iff, Prod.mk.injEq, Prod.exists]
        constructor
        · rintro ⟨before, rest, h, rfl, rfl⟩
          obtain ⟨rfl, hb⟩ := ih.mp h
          refine ⟨rfl, ?_⟩
          rw [byteLength_cons]
          omega
        · rintro ⟨h, hb⟩
          cases before with
          | nil => simp at hb
          | cons d before =>
            obtain ⟨rfl, rfl⟩ := List.cons.inj h
            rw [byteLength_cons] at hb
            exact ⟨before, rest, ih.mpr ⟨rfl, by omega⟩, rfl, rfl⟩

theorem split?_append (before rest : List Char) :
    split? (before ++ rest) (byteLength before) = some (before, rest) :=
  split?_eq_some_iff.mpr ⟨rfl, rfl⟩

/-- The slice between two offsets that lie between characters. -/
theorem slice_append (before piece rest : List Char) :
    slice (before ++ piece ++ rest) (byteLength before) (byteLength before + byteLength piece) =
      pure piece := by
  have hsub : byteLength before + byteLength piece - byteLength before = byteLength piece := by
    omega
  unfold slice
  rw [if_neg (by omega), List.append_assoc, split?_append, hsub]
  dsimp only
  rw [split?_append]

/-- The slice from an offset between characters to the end. -/
theorem slice_to_end (before rest : List Char) :
    slice (before ++ rest) (byteLength before) (byteLength (before ++ rest)) = pure rest := by
  have h := slice_append before rest []
  rwa [List.append_nil, ← byteLength_append] at h

/-- **A slice is the text between two offsets that lie between characters.** -/
theorem slice_eq_pure_iff {text piece : List Char} {start stop : Nat} :
    slice text start stop = pure piece ↔ ∃ before rest, text = before ++ piece ++ rest ∧
      byteLength before = start ∧ start + byteLength piece = stop := by
  constructor
  · intro h
    unfold slice at h
    split at h
    · cases h
    · rename_i hle
      split at h
      · cases h
      · rename_i before later hstart
        split at h
        · cases h
        · rename_i piece' rest hstop
          obtain rfl := Run.pure_inj h
          obtain ⟨rfl, hbefore⟩ := split?_eq_some_iff.mp hstart
          obtain ⟨rfl, hpiece⟩ := split?_eq_some_iff.mp hstop
          exact ⟨before, rest, (List.append_assoc _ _ _).symm, hbefore, by omega⟩
  · rintro ⟨before, rest, rfl, rfl, rfl⟩
    exact slice_append before piece rest

/-- Slices that abut. -/
theorem slice_trans {text first second : List Char} {a b c : Nat}
    (h : slice text a b = pure first) (h' : slice text b c = pure second) :
    slice text a c = pure (first ++ second) := by
  obtain ⟨before, later, htext, ha, hb⟩ := slice_eq_pure_iff.mp h
  obtain ⟨before', rest, htext', hb', hc⟩ := slice_eq_pure_iff.mp h'
  have hsplit : split? text b = some (before ++ first, later) :=
    split?_eq_some_iff.mpr ⟨htext, by rw [byteLength_append, ha, hb]⟩
  have hsplit' : split? text b = some (before', second ++ rest) :=
    split?_eq_some_iff.mpr ⟨by rw [htext', List.append_assoc], hb'⟩
  obtain ⟨rfl, rfl⟩ := Prod.mk.inj (Option.some.inj (hsplit.symm.trans hsplit'))
  refine slice_eq_pure_iff.mpr ⟨before, rest, ?_, ha, ?_⟩
  · rw [htext']
    simp only [List.append_assoc]
  · rw [byteLength_append]
    omega

/-- The offset lies between characters of the text, or at an end of it. -/
def Between (text : List Char) (pos : Nat) : Prop :=
  ∃ before rest, split? text pos = some (before, rest)

theorem exists_slice {text : List Char} {start stop : Nat} (hstart : Between text start)
    (hstop : Between text stop) (h : start ≤ stop) :
    ∃ piece, slice text start stop = pure piece := by
  obtain ⟨before, later, hstart⟩ := hstart
  obtain ⟨before', rest, hstop⟩ := hstop
  obtain ⟨htext, hbefore⟩ := split?_eq_some_iff.mp hstart
  obtain ⟨htext', hbefore'⟩ := split?_eq_some_iff.mp hstop
  rcases List.append_eq_append_iff.mp (htext.symm.trans htext') with
    ⟨piece, rfl, rfl⟩ | ⟨piece, rfl, rfl⟩
  · refine ⟨piece, slice_eq_pure_iff.mpr ⟨before, rest, ?_, hbefore, ?_⟩⟩
    · rw [htext, List.append_assoc]
    · rw [← hbefore', byteLength_append, hbefore]
  · -- The offsets are in order, so nothing lies between them.
    rw [byteLength_append] at hbefore
    have hpiece : byteLength piece = 0 := by omega
    refine ⟨[], slice_eq_pure_iff.mpr ⟨before' ++ piece, later, ?_, ?_, ?_⟩⟩
    · rw [htext, List.append_nil]
    · rw [byteLength_append, hbefore]
    · rw [byteLength_nil]
      omega

/-- What `emit` adds is the piece of the text as a token, if there is any. -/
theorem emit_append {m : Machine} {before piece rest : List Char}
    (htext : m.text = before ++ piece ++ rest) (kind : Kind) {start stop : Nat}
    (hstart : start = byteLength before) (hstop : stop = start + byteLength piece) :
    m.emit kind start stop = pure (m.add (Emission.piece kind piece (m.base + start))) := by
  subst hstart hstop
  unfold Machine.emit Emission.piece
  cases piece with
  | nil => simp [m.add_nil]
  | cons c piece =>
    have hc := c.utf8Size_pos
    have hlt : byteLength before < byteLength before + byteLength (c :: piece) := by
      rw [byteLength_cons]
      omega
    rw [if_pos hlt, htext, slice_append]
    rfl

theorem emit_of_slice {m : Machine} {piece : List Char} {start stop : Nat}
    (h : slice m.text start stop = pure piece) (kind : Kind) :
    m.emit kind start stop = pure (m.add (Emission.piece kind piece (m.base + start))) := by
  obtain ⟨before, rest, htext, hstart, hstop⟩ := slice_eq_pure_iff.mp h
  exact emit_append htext kind hstart.symm hstop.symm

end Bytewise

end Highlighter
