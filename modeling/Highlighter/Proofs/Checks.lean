/-
# Sequences of checks

When a computation that may fail succeeds: one that has two parts, when both do; one that goes
along a list, when it does for every element.  And where it fails: in the first part that does, or
at the first element (`exists_split_of_mapM`).
-/
import Highlighter.Grammar.Error
import Mathlib.Data.List.Forall2

namespace Highlighter

namespace Checks

variable {ε α β : Type}

theorem bind_eq_ok_iff {x : Except ε α} {f : α → Except ε β} {b : β} :
    (x >>= f) = .ok b ↔ ∃ a, x = .ok a ∧ f a = .ok b := by
  cases x with
  | error e => simp [bind, Except.bind]
  | ok a => simp [bind, Except.bind]

theorem map_eq_ok_iff {x : Except ε α} {f : α → β} {b : β} :
    x.map f = .ok b ↔ ∃ a, x = .ok a ∧ f a = b := by
  cases x with
  | error e => simp [Except.map]
  | ok a => simp [Except.map]

theorem bind_eq_error_iff {x : Except ε α} {f : α → Except ε β} {e : ε} :
    (x >>= f) = .error e ↔ x = .error e ∨ ∃ a, x = .ok a ∧ f a = .error e := by
  cases x with
  | error e => simp [bind, Except.bind]
  | ok a => simp [bind, Except.bind]

theorem map_eq_error {x : Except ε α} {f : α → β} {e : ε}
    (h : (x >>= fun a => pure (f a)) = .error e) : x = .error e := by
  cases x with
  | error e' => exact congrArg Except.error (Except.error.inj h)
  | ok a => cases h

/-- A result is given unconditionally where its condition holds. -/
theorem ok_eq_ok_iff {P : Prop} (hP : P) {a b : β} :
    (Except.ok a : Except ε β) = .ok b ↔ P ∧ b = a :=
  ⟨fun h => ⟨hP, (Except.ok.inj h).symm⟩, fun h => congrArg Except.ok h.2.symm⟩

theorem mapM_eq_ok_iff {f : α → Except ε β} {l : List α} {ys : List β} :
    l.mapM f = .ok ys ↔ List.Forall₂ (fun x y => f x = .ok y) l ys := by
  induction l generalizing ys with
  | nil =>
    rw [List.forall₂_nil_left_iff]
    exact ⟨fun h => (Except.ok.inj h).symm, fun h => h ▸ rfl⟩
  | cons x l ih =>
    rw [List.mapM_cons, bind_eq_ok_iff, List.forall₂_cons_left_iff]
    constructor
    · rintro ⟨y, hy, h⟩
      obtain ⟨ys', hys, h⟩ := bind_eq_ok_iff.mp h
      exact ⟨y, ys', hy, ih.mp hys, (Except.ok.inj h).symm⟩
    · rintro ⟨y, ys', hy, hys, rfl⟩
      exact ⟨y, hy, bind_eq_ok_iff.mpr ⟨ys', ih.mpr hys, rfl⟩⟩

/-- **Going along a list stops at the first element for which it fails.** -/
theorem exists_split_of_mapM {f : α → Except ε β} {l : List α} {e : ε}
    (h : l.mapM f = .error e) :
    ∃ before x after, l = before ++ x :: after ∧ (∀ y ∈ before, ∃ z, f y = .ok z) ∧
      f x = .error e := by
  induction l with
  | nil => cases h
  | cons x l ih =>
    rw [List.mapM_cons, bind_eq_error_iff] at h
    rcases h with hx | ⟨y, hy, h⟩
    · exact ⟨[], x, l, rfl, List.forall_mem_nil _, hx⟩
    · obtain ⟨before, z, after, rfl, hbefore, hz⟩ := ih (map_eq_error h)
      exact ⟨x :: before, z, after, rfl, List.forall_mem_cons.mpr ⟨⟨y, hy⟩, hbefore⟩, hz⟩

/-- Going along a list fails where it fails for an element. -/
theorem exists_error_of_mapM {f : α → Except ε β} {l : List α} {e : ε}
    (h : l.mapM f = .error e) : ∃ x ∈ l, f x = .error e := by
  obtain ⟨before, x, after, rfl, -, hx⟩ := exists_split_of_mapM h
  exact ⟨x, List.mem_append_right _ List.mem_cons_self, hx⟩

theorem exists_right_of_mem {R : α → β → Prop} {l : List α} {ys : List β}
    (h : List.Forall₂ R l ys) {x : α} (hx : x ∈ l) : ∃ y ∈ ys, R x y := by
  induction h with
  | nil => cases hx
  | cons hr _ ih =>
    rcases List.mem_cons.mp hx with rfl | hx
    · exact ⟨_, List.mem_cons_self, hr⟩
    · obtain ⟨y, hy, hr⟩ := ih hx
      exact ⟨y, List.mem_cons_of_mem _ hy, hr⟩

theorem exists_right_of_getElem? {R : α → β → Prop} {l : List α} {ys : List β}
    (h : List.Forall₂ R l ys) {i : Nat} {x : α} (hx : l[i]? = some x) :
    ∃ y, ys[i]? = some y ∧ R x y := by
  obtain ⟨hi, rfl⟩ := List.getElem?_eq_some_iff.mp hx
  have hi' : i < ys.length := h.length_eq ▸ hi
  exact ⟨_, List.getElem?_eq_getElem hi', h.get hi hi'⟩

theorem exists_forall₂ {R : α → β → Prop} {l : List α} (h : ∀ x ∈ l, ∃ y, R x y) :
    ∃ ys, List.Forall₂ R l ys := by
  induction l with
  | nil => exact ⟨[], .nil⟩
  | cons x l ih =>
    obtain ⟨y, hy⟩ := h x List.mem_cons_self
    obtain ⟨ys, hys⟩ := ih fun z hz => h z (List.mem_cons_of_mem x hz)
    exact ⟨y :: ys, .cons hy hys⟩

/-- A check that gives a fixed result, along a list. -/
theorem mapM_eq_ok_map {f : α → Except ε β} {P : α → Prop} {g : α → β}
    (h : ∀ x y, f x = .ok y ↔ P x ∧ y = g x) {l : List α} {ys : List β} :
    l.mapM f = .ok ys ↔ (∀ x ∈ l, P x) ∧ ys = l.map g := by
  rw [mapM_eq_ok_iff]
  simp only [h]
  induction l generalizing ys with
  | nil => simp
  | cons x l ih =>
    rw [List.forall₂_cons_left_iff]
    constructor
    · rintro ⟨y, ys', ⟨hx, rfl⟩, hys, rfl⟩
      obtain ⟨hl, rfl⟩ := ih.mp hys
      exact ⟨List.forall_mem_cons.mpr ⟨hx, hl⟩, rfl⟩
    · rintro ⟨hl, rfl⟩
      obtain ⟨hx, hl⟩ := List.forall_mem_cons.mp hl
      exact ⟨g x, l.map g, ⟨hx, rfl⟩, ih.mpr ⟨hl, rfl⟩, rfl⟩

end Checks

end Highlighter
